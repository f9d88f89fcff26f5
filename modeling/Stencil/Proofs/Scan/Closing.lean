import Stencil.Proofs.Scan.Decomposition
import Stencil.Proofs.Scan.Joining

/-!
The search for the end of a span. It finds the closing marker from left to right, each time from the end of the
occurrence found before, and passes over an occurrence that has a backslash before it. Not every backslash will
do. It must be one that this very search has gone over (`Hit.IsEscaped`), and not the last character of the opening
marker or of the closing marker found before. So a marker that ends in a backslash does not stand in its own way.

As it goes the search puts the content together piece by piece. What comes out can be said without the pieces: it
is the text between the two places with each marker that has a backslash before it replaced by the marker
(`closeFrom?_eq_map_firstLive?`). That replacement looks for the backslash and the marker as one text, and the
search looks for the marker alone. They come to the same places also if the marker overlaps with itself or holds
backslashes, since the search has passed over nothing but markers with a backslash before them
(`Marker.unescape_eq_replaceAll`).

In a scan each search begins behind its own opening marker and with no pieces, so no content has anything in it
that belongs to another span (`closeFrom_exactly`).
-/

namespace Stencil

/-- An occurrence that a search has found: where the search began, and where the occurrence stands. -/
structure Hit where
  begun : Nat
  place : Nat
  deriving DecidableEq, Repr

namespace Hit

/-- Right before the occurrence stands a backslash, and not before the place where the search began. -/
def IsEscaped (text : Text) (hit : Hit) : Prop :=
  ∃ place, hit.begun ≤ place ∧ place + 1 = hit.place ∧ text[place]? = some Text.escape

theorem isEscaped_iff {text : Text} {hit : Hit} :
    hit.IsEscaped text ↔ hit.begun < hit.place ∧ text.isEscapedAt hit.place = true := by
  constructor
  · rintro ⟨place, hbegun, hnext, hescape⟩
    have hplace : hit.place - 1 = place := by omega
    have hpos : 0 < hit.place := by omega
    exact ⟨by omega, by simp [Text.isEscapedAt, hpos, hplace, hescape]⟩
  · rintro ⟨hbehind, hescaped⟩
    simp only [Text.isEscapedAt, Bool.and_eq_true, beq_iff_eq] at hescaped
    exact ⟨hit.place - 1, by omega, by omega, hescaped.2⟩

instance (text : Text) (hit : Hit) : Decidable (hit.IsEscaped text) :=
  decidable_of_iff _ isEscaped_iff.symm

end Hit

namespace Marker

/-- What is found of the marker from a cursor on, from left to right. The first search begins at the cursor, and
each later one at the end of the occurrence found before. -/
def hits (marker : Marker) (text : Text) (cursor : Nat) : List Hit :=
  let found := (marker.places (text.drop cursor)).map (cursor + ·)
  List.zipWith Hit.mk (cursor :: found.map (· + marker.length)) found

/-- The place of the first occurrence found from a cursor on that has no backslash of its own before it. -/
def firstLive? (marker : Marker) (text : Text) (cursor : Nat) : Option Nat :=
  ((marker.hits text cursor).find? fun hit => ¬ hit.IsEscaped text).map Hit.place

variable {marker : Marker} {text : Text} {cursor place : Nat}

theorem hits_of_find?_eq_none (h : Text.find? marker.text text cursor = none) :
    marker.hits text cursor = [] := by
  rw [Text.find?, Option.map_eq_none_iff] at h
  simp [hits, places_of_cut?_eq_none h]

theorem hits_of_find? (h : Text.find? marker.text text cursor = some place) :
    marker.hits text cursor = ⟨cursor, place⟩ :: marker.hits text (place + marker.length) := by
  obtain ⟨before, after, hcut, rfl⟩ := Text.find?_eq_some_iff.1 h
  have hdrop : text.drop (cursor + before.length + marker.length) = after := by
    have hlength : before.length + marker.length = (before ++ marker.text).length := by simp [length]
    rw [Nat.add_assoc, ← List.drop_drop, Text.cut?_eq_some hcut, hlength, List.drop_left]
  rw [hits, hits, hdrop, places_of_cut? hcut]
  simp [Function.comp_def, Nat.add_assoc]

theorem firstLive?_of_find?_eq_none (h : Text.find? marker.text text cursor = none) :
    marker.firstLive? text cursor = none := by
  rw [firstLive?, hits_of_find?_eq_none h]
  rfl

theorem firstLive?_of_find? (h : Text.find? marker.text text cursor = some place) :
    marker.firstLive? text cursor =
      if cursor < place ∧ text.isEscapedAt place then marker.firstLive? text (place + marker.length)
      else some place := by
  rw [firstLive?, hits_of_find? h, List.find?_cons]
  by_cases hescaped : cursor < place ∧ text.isEscapedAt place
  · have hpassed : Hit.IsEscaped text ⟨cursor, place⟩ := Hit.isEscaped_iff.2 hescaped
    rw [if_pos hescaped, firstLive?]
    simp [hpassed]
  · have hlive : ¬ Hit.IsEscaped text ⟨cursor, place⟩ := fun hpassed => hescaped (Hit.isEscaped_iff.1 hpassed)
    rw [if_neg hescaped]
    simp [hlive]

theorem firstLive?_eq_none_iff :
    marker.firstLive? text cursor = none ↔ ∀ hit ∈ marker.hits text cursor, hit.IsEscaped text := by
  simp [firstLive?]

theorem map_snd_closeFrom? (marker : Marker) (text : Text) (cursor : Nat) (pieces : List Text) :
    (marker.closeFrom? text cursor pieces).map Prod.snd = marker.firstLive? text cursor := by
  fun_induction closeFrom? marker text cursor pieces with
  | case1 cursor pieces hfound => rw [firstLive?_of_find?_eq_none hfound, Option.map_none]
  | case2 cursor pieces place hfound hescaped ih => rw [ih, firstLive?_of_find? hfound, if_pos hescaped]
  | case3 cursor pieces place hfound hlive =>
    rw [firstLive?_of_find? hfound, if_neg hlive, Option.map_some]

end Marker

structure Bounds where
  start : Nat
  stop : Nat
  deriving DecidableEq, Repr

namespace Marker

/-- What stands in the text between the bounds, with each marker that has a backslash right before it replaced by
the marker. -/
def contentAt (marker : Marker) (text : Text) (bounds : Bounds) : Text :=
  Text.replaceAll marker.escaped marker.text (text.slice bounds.start bounds.stop)

theorem content_of_closeFrom? {marker : Marker} {text content : Text} {cursor stop : Nat}
    (h : marker.closeFrom? text cursor [] = some (content, stop)) :
    content = marker.contentAt text ⟨cursor, stop⟩ := by
  have hbounds := closeFrom?_bounds h
  have hcursor : (text.take cursor).length = cursor := List.length_take_of_le (by omega)
  have hclose := closeFrom?_at marker (text.take cursor) (text.drop cursor) []
  rw [List.take_append_drop, hcursor, h] at hclose
  obtain ⟨⟨written, after⟩, hlive, hread⟩ := Option.map_eq_some_iff.1 hclose.symm
  obtain ⟨rfl, rfl⟩ := Prod.mk.inj hread
  have hslice : text.slice cursor (cursor + written.length) = written := by
    rw [Text.slice, cutLive?_eq_some hlive, Nat.add_sub_cancel_left, List.append_assoc, List.take_left]
  rw [contentAt, hslice]
  exact unescape_eq_replaceAll (cutLive?_lead hlive)

theorem closeFrom?_eq_map_firstLive? (marker : Marker) (text : Text) (cursor : Nat) :
    marker.closeFrom? text cursor [] =
      (marker.firstLive? text cursor).map fun stop => (marker.contentAt text ⟨cursor, stop⟩, stop) := by
  rw [← map_snd_closeFrom? marker text cursor []]
  cases hclose : marker.closeFrom? text cursor [] with
  | none => rfl
  | some closed =>
    obtain ⟨content, stop⟩ := closed
    rw [content_of_closeFrom? hclose]
    rfl

end Marker

/-! ### The contents of a scan -/

namespace Markers

/-- The content begins right behind an opening marker without a backslash before it, and ends at the first live
closing marker found from there on. -/
structure Encloses (markers : Markers) (text : Text) (bounds : Bounds) : Prop where
  opened : ∃ place, place + markers.opening.length = bounds.start ∧
    text.slice place bounds.start = markers.opening.text ∧ text.isEscapedAt place = false
  closed : markers.closing.firstLive? text bounds.start = some bounds.stop

/-- The contents stand in the text from a cursor on one behind the other, each between markers of its own. -/
inductive EnclosesInTurn (markers : Markers) (text : Text) : Nat → List Bounds → Prop
  | nil {cursor : Nat} : markers.EnclosesInTurn text cursor []
  | cons {cursor : Nat} {bounds : Bounds} {later : List Bounds} :
      cursor + markers.opening.length ≤ bounds.start → markers.Encloses text bounds →
      markers.EnclosesInTurn text (bounds.stop + markers.closing.length) later →
      markers.EnclosesInTurn text cursor (bounds :: later)

variable {markers : Markers} {text : Text}

/-- What stands between a live opening marker and the live closing marker behind it is enclosed, and it is what is
read there. -/
theorem encloses_of_cutLive? {done lead inner content after : Text}
    (hopen : markers.opening.cutLive? markers.opening.endsInEscape done.endsInEscape text = some (lead, inner))
    (hclose : markers.closing.cutLive? false false inner = some (content, after)) :
    let start := (done ++ lead ++ markers.opening.text).length
    markers.Encloses (done ++ text) ⟨start, start + content.length⟩ ∧
      markers.closing.contentAt (done ++ text) ⟨start, start + content.length⟩ =
        markers.closing.unescape content := by
  intro start
  have htext : done ++ text = done ++ lead ++ markers.opening.text ++ inner := by
    simp [Marker.cutLive?_eq_some hopen]
  have hsearch : markers.closing.closeFrom? (done ++ text) start [] =
      some (markers.closing.unescape content, start + content.length) := by
    rw [htext, Marker.closeFrom?_at, hclose]
    rfl
  rw [Marker.closeFrom?_eq_map_firstLive?, Option.map_eq_some_iff] at hsearch
  obtain ⟨stop, hlive, hread⟩ := hsearch
  obtain ⟨hcontent, rfl⟩ := Prod.mk.inj hread
  refine ⟨⟨⟨(done ++ lead).length, ?_, ?_, ?_⟩, hlive⟩, hcontent⟩
  · simp [start, Marker.length]
  · have hsize : start - (done ++ lead).length = markers.opening.text.length := by simp [start]
    rw [Text.slice, htext, List.append_assoc, List.drop_left, hsize, List.take_left]
  · rw [htext, List.append_assoc, Text.isEscapedAt_at, ← Text.isEscaped_endsInEscape]
    exact Marker.isEscaped_of_cutLive? hopen

/-- The contents of a text are enclosed in it in turn, also when something is put in front of the text. -/
theorem exists_bounds (markers : Markers) (done rest : Text) :
    ∃ bounds, markers.EnclosesInTurn (done ++ rest) done.length bounds ∧
      bounds.map (markers.closing.contentAt (done ++ rest)) =
        markers.contents (markers.segmentFrom done.endsInEscape rest) := by
  generalize hbehind : done.endsInEscape = behind
  induction behind, rest using markers.segment_induction generalizing done with
  | bare behind rest hopen => exact ⟨[], .nil, by simp [segmentFrom_of_cutLive?_eq_none hopen, contents]⟩
  | unclosed behind rest lead inner hopen hclose =>
    exact ⟨[], .nil, by simp [segmentFrom_of_unclosed hopen hclose, contents]⟩
  | closed behind rest lead inner content after hopen hclose ih =>
    subst hbehind
    obtain ⟨hencloses, hread⟩ := encloses_of_cutLive? hopen hclose
    obtain ⟨later, hlater, hcontents⟩ :=
      ih (done ++ lead ++ markers.opening.text ++ content ++ markers.closing.text)
        (markers.closing.endsInEscape_append_text _)
    have hsame : done ++ lead ++ markers.opening.text ++ content ++ markers.closing.text ++ after =
        done ++ rest := by
      simp [Marker.cutLive?_eq_some hopen, Marker.cutLive?_eq_some hclose]
    have hnext : (done ++ lead ++ markers.opening.text ++ content ++ markers.closing.text).length =
        (done ++ lead ++ markers.opening.text).length + content.length + markers.closing.length := by
      simp only [List.length_append, Marker.length]
    rw [hsame] at hlater hcontents
    rw [hnext] at hlater
    refine ⟨_, .cons ?_ hencloses hlater, ?_⟩
    · simp only [List.length_append, Marker.length]
      omega
    · rw [List.map_cons, hread, hcontents, segmentFrom_of_closed hopen hclose, contents_cons]

/-- The search for the end of a span comes back empty exactly if each closing marker found from the cursor on has a
backslash of its own before it. Otherwise it stops at the first one that has none, and the content is what it has
gone over, with the backslashes before closing markers taken away. And whatever a handler does, the contents it is
asked for are such contents, each found behind a live opening marker, and no two of them overlap. -/
theorem closeFrom_exactly (markers : Markers) (text : Text) :
    (∀ cursor,
      (markers.closing.closeFrom? text cursor [] = none ↔
        ∀ hit ∈ markers.closing.hits text cursor, hit.IsEscaped text) ∧
      ∀ content stop, markers.closing.closeFrom? text cursor [] = some (content, stop) ↔
        markers.closing.firstLive? text cursor = some stop ∧
          content = markers.closing.contentAt text ⟨cursor, stop⟩) ∧
    ∃ bounds, markers.EnclosesInTurn text 0 bounds ∧
      ∀ (σ ε : Type) (handler : Handler σ ε) (state : σ),
        (markers.traced handler state text).calls <+: bounds.map (markers.closing.contentAt text) ∧
        ∀ filled, (markers.traced handler state text).outcome = .ok filled →
          (markers.traced handler state text).calls = bounds.map (markers.closing.contentAt text) := by
  refine ⟨fun cursor => ⟨?_, fun content stop => ?_⟩, ?_⟩
  · rw [Marker.closeFrom?_eq_map_firstLive?, Option.map_eq_none_iff, Marker.firstLive?_eq_none_iff]
  · rw [Marker.closeFrom?_eq_map_firstLive?, Option.map_eq_some_iff]
    constructor
    · rintro ⟨place, hlive, hread⟩
      obtain ⟨rfl, rfl⟩ := Prod.mk.inj hread
      exact ⟨hlive, rfl⟩
    · rintro ⟨hlive, rfl⟩
      exact ⟨stop, hlive, rfl⟩
  · obtain ⟨bounds, hbounds, hcontents⟩ := exists_bounds markers [] text
    refine ⟨bounds, hbounds, fun σ ε handler state => ?_⟩
    have hread : bounds.map (markers.closing.contentAt text) = markers.contents (markers.segment text) :=
      hcontents
    rw [hread]
    exact ⟨calls_isPrefix_contents markers handler state text, fun filled => calls_eq_contents⟩

/-- A marker that ends in a backslash. The first occurrence behind the cursor is passed over. The backslash before
the second one belongs to the first, so there the content ends. -/
example :
    (⟨">\\".toList, nofun⟩ : Marker).closeFrom? "<\\a\\>\\>\\".toList 2 [] = some ("a>\\".toList, 6) := by
  decide +kernel

end Markers

end Stencil
