import Stencil.Proofs.Pipeline.Failure
import Stencil.Proofs.Scan.Quoting
import Stencil.Proofs.Text.Lines
import Stencil.Proofs.Text.Utf8
import Stencil.Property
import Stencil.Surroundings.Wording

/-!
What is in a file that is included comes out as it is, line ends apart. Under the standard settings a text that
mentions files becomes the text with the texts of the files in the place of the mentions (`processed_including`).
Of the files it is only asked that they are there, may be read, hold a text and are not too large, so their texts
may hold markers and backslashes of every kind. They are put down by the second pass and not looked at again, and
the first pass finds nothing in what stands around them.
-/

namespace Stencil

/-- A text without a character that is part of a marker under the standard settings or takes away the meaning of
one. -/
def IsPlain (text : Text) : Prop :=
  ∀ c ∈ text, c ∉ ['$', '%', '{', '}', '\\']

instance (text : Text) : Decidable (IsPlain text) :=
  List.decidableBAll _ text

/-- A path that is mentioned in a text, with the text that leads to it and the text of the file that it names. -/
structure Mention where
  lead : Text
  path : Text
  text : Text

namespace Mention

/-- The mentions one behind the other and a last text, as they are written under the standard settings. -/
def written (mentions : List Mention) (last : Text) : Text :=
  (mentions.flatMap fun mention => mention.lead ++ ['%', '{'] ++ mention.path ++ ['}']) ++ last

/-- The mentions one behind the other with the text of each file in its place, every line of it ended by a line
feed. -/
def included (mentions : List Mention) (last : Text) : Text :=
  (mentions.flatMap fun mention => mention.lead ++ mention.text.lineFed) ++ last

/-- What is asked of a mention: nothing in it but the markers has a meaning to a scan, the path is read as it is
written, and it names a file that may be read, holds the text, and is not too large. -/
structure Sound (world : World) (mention : Mention) : Prop where
  plainLead : IsPlain mention.lead
  plainPath : IsPlain mention.path
  firstFilled : mention.path.head?.any Blank.isBlank = false
  lastFilled : mention.path.getLast?.any Blank.isBlank = false
  homeless : mention.path.head? ≠ some '~'
  found : world.files.find (Path.resolve world.directory mention.path) =
    some (.file (Utf8.encode mention.text))
  readable : world.files.readable (Path.resolve world.directory mention.path).names = true
  small : (Utf8.encode mention.text).length ≤ ({} : Settings).fileLimit

end Mention

/-! ### Plain texts -/

namespace IsPlain

variable {text : Text}

theorem notMem (h : IsPlain text) {c : Char} (hc : c ∈ ['$', '%', '{', '}', '\\']) : c ∉ text :=
  fun hmem => h c hmem hc

theorem endsInEscape (h : IsPlain text) : text.endsInEscape = false := by
  rw [Text.endsInEscape, beq_eq_false_iff_ne]
  exact fun hlast => h.notMem (by decide) (List.mem_of_getLast? hlast)

/-- A plain text has nothing that must be quoted, since the markers consist of characters that it lacks. -/
theorem quote_eq (h : IsPlain text) {marker : Marker} {c : Char} (hmarker : c ∈ marker.text)
    (hc : c ∈ ['$', '%', '{', '}', '\\']) : marker.quote text = text :=
  Marker.quote_of_cut?_eq_none
    (Text.cut?_eq_none_iff.2 fun hoccurs => h.notMem hc (hoccurs.subset hmarker))

end IsPlain

theorem Text.trim_eq_self {off : Char → Bool} {text : Text} (hfirst : text.head?.any off = false)
    (hlast : text.getLast?.any off = false) : text.trim off = text := by
  have hkept {front : Text} (h : front.head?.any off = false) : front.dropWhile off = front := by
    cases front with
    | nil => rfl
    | cons c front => rw [List.dropWhile_cons, if_neg (by simpa using h)]
  rw [Text.trim, hkept hfirst, hkept (by rwa [List.head?_reverse]), List.reverse_reverse]

/-! ### The markers of the standard settings -/

namespace Settings

def standardFileMarkers : Markers where
  opening := ⟨['%', '{'], List.cons_ne_nil _ _⟩
  closing := ⟨['}'], List.cons_ne_nil _ _⟩

theorem markers_standard : ({} : Settings).markers = .ok Property.markers := rfl

theorem fileMarkers_standard : ({} : Settings).fileMarkers = .ok standardFileMarkers := rfl

end Settings

open Settings

namespace Mention

variable {world : World} {mentions : List Mention} {last : Text}

namespace Sound

variable {mention : Mention}

theorem placeOf_path (h : mention.Sound world) :
    world.placeOf mention.path = .ok (Path.resolve world.directory mention.path) := by
  rw [World.placeOf, Text.trim_eq_self h.firstFilled h.lastFilled]
  have hhome := h.homeless
  cases hpath : mention.path with
  | nil => rfl
  | cons c path =>
    rw [hpath, List.head?_cons, ne_eq, Option.some.injEq] at hhome
    rw [World.expandHome.eq_2 world (c :: path) fun _ hc => hhome (List.cons.inj hc).1]
    rfl

theorem bytesAt_path (h : mention.Sound world) :
    (({} : Settings).inclusion world).bytesAt world.files (Path.resolve world.directory mention.path) =
      .ok (Utf8.encode mention.text) := by
  have hlimit := Int.not_lt.2 h.small
  simp only [Inclusion.bytesAt, h.found, h.readable]
  exact if_neg hlimit

theorem reply (h : mention.Sound world) :
    (({} : Settings).inclusion world).reply world mention.path = .ok mention.text.lineFed := by
  have hread : (({} : Settings).inclusion world).readFile world.files
      (Path.resolve world.directory mention.path) = .ok mention.text.lineFed := by
    simp only [Inclusion.readFile, h.bytesAt_path, bind, Except.bind, Utf8.decode_encode,
      Text.unified_eq_lineFed]
  rw [Inclusion.reply, h.placeOf_path]
  exact hread

end Sound

/-! ### The two scans -/

section

variable (hmentions : ∀ mention ∈ mentions, mention.Sound world) (hlast : IsPlain last)

include hmentions hlast

theorem cut?_written : Text.cut? Property.markers.opening.text (written mentions last) = none := by
  have hdollar : '$' ∉ written mentions last := by
    rw [written, List.mem_append, List.mem_flatMap]
    rintro (⟨mention, hmention, hmem⟩ | hmem)
    · have hlead := (hmentions mention hmention).plainLead.notMem (c := '$') (by decide)
      have hpath := (hmentions mention hmention).plainPath.notMem (c := '$') (by decide)
      simp [hlead, hpath] at hmem
    · exact hlast.notMem (by decide) hmem
  rw [Text.cut?_eq_none_iff]
  exact fun hoccurs => hdollar (hoccurs.subset (by decide))

theorem filledIn_written (vars : Option Variables) :
    ({} : Settings).filledIn Property.markers vars (written mentions last) = written mentions last :=
  Markers.filled_of_cut?_eq_none _ (cut?_written hmentions hlast)

theorem notedIn_written (vars : Option Variables) :
    ({} : Settings).notedIn Property.markers vars (written mentions last) = [] := by
  have hnone : Property.markers.opening.cutLive? Property.markers.opening.endsInEscape false
      (written mentions last) = none :=
    Marker.cutLive?_of_cut?_eq_none (cut?_written hmentions hlast)
  rw [Settings.notedIn, Markers.segment, Markers.segmentFrom_of_cutLive?_eq_none hnone]
  rfl

theorem template_mentions :
    standardFileMarkers.template (mentions.map fun mention => (mention.lead, mention.path)) last =
      written mentions last := by
  induction mentions with
  | nil => exact hlast.quote_eq (c := '%') (by decide) (by decide)
  | cons mention mentions ih =>
    have hsound := hmentions mention List.mem_cons_self
    have hlead : standardFileMarkers.opening.quote mention.lead = mention.lead :=
      hsound.plainLead.quote_eq (c := '%') (by decide) (by decide)
    have hpath : standardFileMarkers.closing.quote mention.path = mention.path :=
      hsound.plainPath.quote_eq (c := '}') (by decide) (by decide)
    rw [List.map_cons, Markers.template, hlead, hpath,
      ih fun other hother => hmentions other (List.mem_cons_of_mem _ hother)]
    simp [written, standardFileMarkers]

omit hlast in
theorem endsInEscape_mentions :
    ∀ piece ∈ mentions.map fun mention => (mention.lead, mention.path),
      piece.1.endsInEscape = false ∧ piece.2.endsInEscape = false := by
  intro piece hpiece
  obtain ⟨mention, hmention, rfl⟩ := List.mem_map.1 hpiece
  exact ⟨(hmentions mention hmention).plainLead.endsInEscape,
    (hmentions mention hmention).plainPath.endsInEscape⟩

theorem contents_written :
    standardFileMarkers.contents (standardFileMarkers.segment (written mentions last)) =
      mentions.map fun mention => mention.path := by
  rw [← template_mentions hmentions hlast, Markers.contents_segment_template (by decide) (by decide)
    (fun _ => ⟨by decide, by decide⟩) (endsInEscape_mentions hmentions), List.map_map]
  rfl

theorem fragments_written :
    standardFileMarkers.fragments (standardFileMarkers.segment (written mentions last)) =
      mentions.map (fun mention => mention.lead) ++ [last] := by
  rw [← template_mentions hmentions hlast, Markers.fragments_segment_template (by decide) (by decide)
    (fun _ => ⟨by decide, by decide⟩) (endsInEscape_mentions hmentions), List.map_map]
  rfl

end

theorem weave_included (mentions : List Mention) (last : Text) :
    Text.weave (mentions.map (fun mention => mention.lead) ++ [last])
      (mentions.map fun mention => mention.text.lineFed) = included mentions last := by
  induction mentions with
  | nil => simp [Text.weave, included]
  | cons mention mentions ih => simp [Text.weave, included, ih]

end Mention

/-- Under the standard settings and whatever the variables are, a text that mentions files becomes the text with
the texts of these files in place of the mentions, and nothing is noted. -/
theorem processed_including {world : World} {mentions : List Mention} {last : Text}
    (hmentions : ∀ mention ∈ mentions, mention.Sound world) (hlast : IsPlain last)
    (vars : Option Variables) :
    processed world {} true vars (some (Mention.written mentions last)) =
      (⟨Mention.included mentions last, none, true⟩, []) := by
  have hfilled := Mention.filledIn_written hmentions hlast vars
  have hreplies : (({} : Settings).fileContents Property.markers standardFileMarkers vars
      (Mention.written mentions last)).mapM ((({} : Settings).inclusion world).reply world) =
      .ok (mentions.map fun mention => mention.text.lineFed) := by
    rw [Settings.fileContents, hfilled, Mention.contents_written hmentions hlast, List.mapM_map]
    exact mapM_eq_ok_map fun mention hmention => (hmentions mention hmention).reply
  obtain ⟨result, hfill, hrun⟩ := process_with_files markers_standard fileMarkers_standard hreplies
  have hresult : result = Mention.included mentions last := by
    rw [Settings.fileContents] at hreplies
    rw [Markers.fill_eq_assemble, hreplies, hfilled] at hfill
    have hwoven := Except.ok.inj hfill
    rw [Markers.assemble, Mention.fragments_written hmentions hlast] at hwoven
    exact hwoven.symm.trans (Mention.weave_included mentions last)
  rw [processed, Option.getD_some, hrun, Mention.notedIn_written hmentions hlast, hresult]
  rfl

def shelfText : Text :=
  "\ufeff%\x7bx\x7d\\$\x7by\x7d\x00\r\n\r\r\né\n".toList

def shelf : World where
  files := (FileSystem.empty.write ["w".toList, "a b".toList] (Utf8.encode shelfText)).write ["f".toList] []
  directory := ⟨.single, ["w".toList]⟩
  home := "/".toList
  users := []
  wording := .standard fun _ => ""

def shelfMentions : List Mention :=
  [⟨"see ".toList, "./a b".toList, shelfText⟩, ⟨[], "../w/..//f".toList, []⟩,
    ⟨"\r\n".toList, "/w/a b".toList, shelfText⟩]

/-- All of the text but its line ends comes out as it is, and the lines around the mentions end as they did. -/
theorem processed_including_shelf :
    (∀ mention ∈ shelfMentions, mention.Sound shelf) ∧ IsPlain "!".toList ∧
    Mention.written shelfMentions "!".toList =
      "see %\x7b./a b\x7d%\x7b../w/..//f\x7d\r\n%\x7b/w/a b\x7d!".toList ∧
    processed shelf {} true (some [("y".toList, .bool true)])
        (some "see %\x7b./a b\x7d%\x7b../w/..//f\x7d\r\n%\x7b/w/a b\x7d!".toList) =
      (⟨"see \ufeff%\x7bx\x7d\\$\x7by\x7d\x00\n\n\né\n\r\n\ufeff%\x7bx\x7d\\$\x7by\x7d\x00\n\n\né\n!".toList,
        none, true⟩, []) := by
  have hmentions : ∀ mention ∈ shelfMentions, mention.Sound shelf := by
    simp only [shelfMentions, List.forall_mem_cons, List.not_mem_nil, false_imp_iff, implies_true, and_true]
    refine ⟨?_, ?_, ?_⟩ <;> constructor <;> decide +kernel
  have hlast : IsPlain "!".toList := by decide
  have hwritten : Mention.written shelfMentions "!".toList =
      "see %\x7b./a b\x7d%\x7b../w/..//f\x7d\r\n%\x7b/w/a b\x7d!".toList := by decide +kernel
  refine ⟨hmentions, hlast, hwritten, ?_⟩
  rw [← hwritten, processed_including hmentions hlast]
  decide +kernel

end Stencil
