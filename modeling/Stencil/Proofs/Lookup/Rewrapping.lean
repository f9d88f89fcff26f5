import Stencil.Proofs.Lookup.Pass

/-!
A pass with nothing to put in. Every span goes back between its markers, so one might expect the text to come
back as it was. What a pass does all the same is to read: a marker behind a backslash loses the backslash, in
a literal stretch and in the content of a closed span. Nothing else happens to a text (`fill_rewrapping`).
The markers may be any, also such as end in a backslash themselves, and then not every backslash before a
marker goes: one that belongs to the marker before it stays.

`Text.Sheds` is written without a look at spans. The backslashes that go stand, in the text, before an
occurrence of a marker, be it one that a scan finds or not.
-/

namespace Stencil

namespace Text

/-- The second text is what is left of the first when some backslashes are taken away, each of which stands
right before an occurrence of one of the markers. -/
inductive Sheds (markers : List Marker) : Text → Text → Prop
  | nil : Sheds markers [] []
  | keep {c : Char} {text kept : Text} : Sheds markers text kept → Sheds markers (c :: text) (c :: kept)
  | shed {marker : Marker} {text kept : Text} : marker ∈ markers → marker.text <+: text →
      Sheds markers text kept → Sheds markers (escape :: text) kept

namespace Sheds

variable {markers : List Marker} {text kept : Text}

theorem refl (markers : List Marker) (text : Text) : Sheds markers text text := by
  induction text with
  | nil => exact .nil
  | cons c text ih => exact .keep ih

theorem append {more moreKept : Text} (h : Sheds markers text kept)
    (hmore : Sheds markers more moreKept) : Sheds markers (text ++ more) (kept ++ moreKept) := by
  induction h with
  | nil => exact hmore
  | keep _ ih => exact .keep ih
  | shed hmarker hstarts _ ih => exact .shed hmarker (hstarts.trans (List.prefix_append _ _)) ih

theorem append_left (front : Text) (h : Sheds markers text kept) :
    Sheds markers (front ++ text) (front ++ kept) :=
  (refl markers front).append h

theorem eq_of_unescaped {pair : Markers} (h : Sheds pair.both text kept) (hnone : pair.Unescaped text) :
    kept = text := by
  induction h with
  | nil => rfl
  | @keep c text kept _ ih => rw [ih (hnone.of_infix (List.suffix_cons c text).isInfix)]
  | @shed marker text kept hmarker hstarts _ _ =>
    exact absurd ((List.prefix_cons_inj escape).2 hstarts).isInfix (hnone marker hmarker)

end Sheds

end Text

namespace Marker

variable {marker : Marker} {markers : List Marker} {carry behind : Bool}

theorem isEscaped_concat (behind : Bool) (before : Text) (c : Char) :
    isEscaped behind (before ++ [c]) = (c == Text.escape) := by
  cases before <;> simp [isEscaped, Text.endsInEscape, List.getLast?_cons]

/-- An occurrence that is not live gives up the backslash before it, if that one is in the stretch. -/
theorem sheds_of_escaped (hmarker : marker ∈ markers) {before after kept : Text}
    (hescaped : isEscaped behind before = true) (h : Text.Sheds markers after kept) :
    Text.Sheds markers (before ++ marker.text ++ after) (before.dropLast ++ marker.text ++ kept) := by
  have hrest := h.append_left marker.text
  cases before using List.reverseRecOn with
  | nil => simpa using hrest
  | append_singleton before c =>
    obtain rfl : c = Text.escape := by simpa [isEscaped_concat] using hescaped
    have hshed := (Text.Sheds.shed hmarker (List.prefix_append _ _) hrest).append_left before
    simpa using hshed

theorem sheds_unescape_of_silent (hmarker : marker ∈ markers) {text : Text}
    (h : marker.cutLive? carry behind text = none) :
    Text.Sheds markers text (marker.unescape text) := by
  induction text using Text.cut_induction marker.nonempty generalizing behind with
  | last text hcut =>
    rw [unescape_of_cut?_eq_none hcut]
    exact .refl markers text
  | next text before after hcut ih =>
    obtain ⟨hescaped, hafter⟩ := (cutLive?_eq_none_iff_of_cut? hcut).1 h
    have hread := unescape_append hcut after
    have hall := sheds_of_escaped hmarker hescaped (ih hafter)
    rw [← Text.cut?_eq_some hcut] at hread hall
    rw [hread]
    exact hall

theorem sheds_unescape (hmarker : marker ∈ markers) {text lead rest : Text}
    (h : marker.cutLive? carry behind text = some (lead, rest)) :
    Text.Sheds markers lead (marker.unescape lead) :=
  sheds_unescape_of_silent hmarker (cutLive?_lead h)

end Marker

namespace Markers

/-- With each content put back between the markers, a segmentation is put together to its text less
backslashes before markers. -/
theorem sheds_assemble_rewrapped (markers : Markers) (behind : Bool) (text : Text) :
    Text.Sheds markers.both text
      (markers.assemble (markers.segmentFrom behind text)
        ((markers.contents (markers.segmentFrom behind text)).map markers.wrapped)) := by
  induction behind, text using markers.segment_induction with
  | bare behind text hopen =>
    rw [segmentFrom_of_cutLive?_eq_none hopen]
    simpa [contents, assemble, fragments, leads, ending, unclosedTail, Text.weave] using
      Marker.sheds_unescape_of_silent markers.opening_mem_both hopen
  | unclosed behind text lead inner hopen hclose =>
    have hlead := Marker.sheds_unescape markers.opening_mem_both hopen
    have hall := hlead.append (.refl markers.both (markers.opening.text ++ inner))
    rw [← List.append_assoc, ← Marker.cutLive?_eq_some hopen] at hall
    rw [segmentFrom_of_unclosed hopen hclose]
    simpa [contents, assemble, fragments, leads, ending, unclosedTail, Text.weave] using hall
  | closed behind text lead inner content after hopen hclose ih =>
    have hlead := Marker.sheds_unescape markers.opening_mem_both hopen
    have hcontent := Marker.sheds_unescape markers.closing_mem_both hclose
    have hspan := (hcontent.append (ih.append_left markers.closing.text)).append_left markers.opening.text
    have hall := hlead.append hspan
    have hwhole : text = lead ++ (markers.opening.text ++
        (content ++ (markers.closing.text ++ after))) := by
      rw [Marker.cutLive?_eq_some hopen, Marker.cutLive?_eq_some hclose]
      simp
    rw [← hwhole] at hall
    rw [segmentFrom_of_closed hopen hclose, contents_cons, List.map_cons, assemble_cons, wrapped]
    simpa using hall

end Markers

namespace Lookup

theorem reply_eq_rewrap {lookup : Lookup}
    (h : lookup.vars = none ∨ lookup.vars = some [] ∧ lookup.enableDefault = false) (content : Text) :
    lookup.reply content = lookup.rewrap content := by
  rcases h with hnone | ⟨hempty, hdefault⟩
  · exact reply_of_vars_eq_none hnone content
  · simp [reply, answer?, question, hempty, hdefault]

end Lookup

namespace Markers

/-- A pass with nothing to put in ends with the text less some backslashes, each of which stands right before
a marker in the text. Where there is none, it ends with the text. -/
theorem fill_rewrapping {ε : Type} (markers : Markers) {vars : Option Variables} {enableDefault : Bool}
    (h : vars = none ∨ vars = some [] ∧ enableDefault = false) (separator text : Text) :
    ∃ kept notes, (markers.fill (markers.lookup vars enableDefault separator).noted text :
        Noted ε Text).outcome = (.ok kept, notes) ∧
      Text.Sheds markers.both text kept ∧ (markers.Unescaped text → kept = text) := by
  have hreply : (markers.lookup vars enableDefault separator).reply = markers.wrapped :=
    funext (Lookup.reply_eq_rewrap h)
  have hsheds := markers.sheds_assemble_rewrapped false text
  rw [← hreply, ← segment, ← filled_eq_assemble] at hsheds
  exact ⟨_, _, markers.fill_noted _ text [], hsheds, hsheds.eq_of_unescaped⟩

def slashes : Markers where
  opening := ⟨['<', '\\'], nofun⟩
  closing := ⟨['\\', '>', '>'], nofun⟩

/-- Of three markers behind a backslash two lose it, the first one and the closing marker in the content; the
backslash before the second belongs to the first. In the other text backslashes stand before no marker. -/
theorem fill_rewrapping_slashes :
    (∃ kept notes, (slashes.fill (slashes.lookup (some []) false []).noted
        "\\<\\<\\.<\\a\\\\>>b\\>><\\\\".toList : Noted Empty Text).outcome = (.ok kept, notes) ∧
      Text.Sheds slashes.both "\\<\\<\\.<\\a\\\\>>b\\>><\\\\".toList kept ∧
      kept = "<\\<\\.<\\a\\>>b\\>><\\\\".toList) ∧
    slashes.Unescaped "\\ <\\:\\>>\\>".toList ∧
    ∃ notes, (slashes.fill (slashes.lookup none true [':']).noted
      "\\ <\\:\\>>\\>".toList : Noted Empty Text).outcome = (.ok "\\ <\\:\\>>\\>".toList, notes) := by
  obtain ⟨kept, notes, houtcome, hsheds, -⟩ := slashes.fill_rewrapping (ε := Empty)
    (.inr ⟨rfl, rfl⟩) [] "\\<\\<\\.<\\a\\\\>>b\\>><\\\\".toList
  have hvars : (none : Option Variables) = none ∨ (none : Option Variables) = some [] ∧ true = false :=
    .inl rfl
  obtain ⟨same, noted, hsame, -, hunescaped⟩ :=
    slashes.fill_rewrapping (ε := Empty) hvars [':'] "\\ <\\:\\>>\\>".toList
  have hnone : slashes.Unescaped "\\ <\\:\\>>\\>".toList := by decide +kernel
  rw [hunescaped hnone] at hsame
  refine ⟨⟨kept, notes, houtcome, hsheds, ?_⟩, hnone, noted, hsame⟩
  rw [Noted.outcome, fill_noted, Prod.mk.injEq, Except.ok.injEq] at houtcome
  rw [← houtcome.1]
  decide +kernel

end Markers

end Stencil
