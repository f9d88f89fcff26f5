import Stencil.Property
import Stencil.Proofs.Lookup.Pass
import Stencil.Proofs.Scan.Extending

/-!
Spans without an answer. Such a span goes back into the text between its markers, and one would want it there
as it was written. But the reply is made of the content as it reads, and reading takes away the backslash before
each closing marker. Nothing puts these backslashes back.

So it is the closing marker that decides (`unanswered_as_written_iff`). A content in which it does not occur
reads as it is written, so the span stays, and a scan of the reply by itself finds the same content. A content in
which it does occur is one in which every occurrence is behind a backslash, for it would be the end of the span
otherwise. There the reply is shorter than the span, and its first closing marker is live. What a scan finds in
the reply is cut off at that marker (`unanswered_not_as_written`).
-/

namespace Stencil

namespace Marker

variable {marker : Marker} {carry behind : Bool}

theorem infix_unescape {text : Text} (h : marker.text <:+: text) : marker.text <:+: marker.unescape text := by
  cases hcut : Text.cut? marker.text text with
  | none => exact absurd h (Text.cut?_eq_none_iff.1 hcut)
  | some cut =>
    obtain ⟨before, after⟩ := cut
    rw [unescape_eq, hcut]
    exact ⟨before.dropLast, marker.unescape after, rfl⟩

theorem isEscaped_of_cut?_lead {text lead rest before after : Text}
    (hlead : marker.cutLive? carry behind text = some (lead, rest))
    (hcut : Text.cut? marker.text lead = some (before, after)) : isEscaped behind before = true :=
  ((cutLive?_eq_none_iff_of_cut? hcut).1 (cutLive?_lead hlead)).1

/-- A stretch that leads to a live marker loses something by being read if there is a marker in it: the
backslash before the first one. -/
theorem length_unescape_lt {text lead rest : Text}
    (h : marker.cutLive? carry false text = some (lead, rest)) (hoccurs : marker.text <:+: lead) :
    (marker.unescape lead).length < lead.length := by
  cases hcut : Text.cut? marker.text lead with
  | none => exact absurd hoccurs (Text.cut?_eq_none_iff.1 hcut)
  | some cut =>
    obtain ⟨before, after⟩ := cut
    have hbefore : before ≠ [] := by
      rintro rfl
      exact absurd (isEscaped_of_cut?_lead h hcut) Bool.false_ne_true
    have hpos := List.length_pos_iff.2 hbefore
    have hafter := marker.length_unescape_le after
    rw [Text.cut?_eq_some hcut, unescape_append hcut after]
    simp only [List.length_append, List.length_dropLast]
    omega

/-- A stretch that leads to a live marker reads as it is written exactly if there is no marker in it. -/
theorem unescape_eq_self_iff {text lead rest : Text}
    (h : marker.cutLive? carry false text = some (lead, rest)) :
    marker.unescape lead = lead ↔ ¬ marker.text <:+: lead := by
  constructor
  · intro hsame hoccurs
    have hshorter := length_unescape_lt h hoccurs
    rw [hsame] at hshorter
    exact Nat.lt_irrefl _ hshorter
  · intro hnone
    exact unescape_of_cut?_eq_none (Text.cut?_eq_none_iff.2 hnone)

end Marker

namespace Markers

variable {markers : Markers}

theorem cutLive?_of_mem_spans {behind : Bool} {text : Text} {span : Span}
    (h : span ∈ (markers.segmentFrom behind text).spans) :
    ∃ inner after, markers.closing.cutLive? false false inner = some (span.content, after) := by
  induction behind, text using markers.segment_induction with
  | bare behind text hopen => simp [segmentFrom_of_cutLive?_eq_none hopen] at h
  | unclosed behind text lead inner hopen hclose => simp [segmentFrom_of_unclosed hopen hclose] at h
  | closed behind text lead inner content after hopen hclose ih =>
    rw [segmentFrom_of_closed hopen hclose, Segmentation.spans_cons, List.mem_cons] at h
    rcases h with rfl | hlater
    · exact ⟨inner, after, hclose⟩
    · exact ih hlater

theorem segment_wrapped {content : Text}
    (h : markers.closing.cutLive? false false (content ++ markers.closing.text) = some (content, [])) :
    markers.segment (markers.wrapped content) = ⟨[⟨[], content⟩], [], none⟩ := by
  have hwrapped : markers.wrapped content =
      markers.opening.text ++ (content ++ markers.closing.text) := by simp [wrapped]
  have hopen : markers.opening.cutLive? markers.opening.endsInEscape false (markers.wrapped content) =
      some ([], content ++ markers.closing.text) := by
    rw [hwrapped]
    exact Marker.cutLive?_of_live (Text.cut?_self_append markers.opening.nonempty _) rfl
  have hempty : markers.opening.cutLive? markers.opening.endsInEscape markers.closing.endsInEscape [] =
      none :=
    Marker.cutLive?_of_cut?_eq_none (Text.cut?_eq_none_iff.2 (by simp [markers.opening.nonempty]))
  rw [segment, segmentFrom_of_closed hopen h, segmentFrom_of_cutLive?_eq_none hempty]
  rfl

theorem flatMap_spans_segment (markers : Markers) (text : Text) :
    ((markers.segment text).spans.flatMap fun span => span.lead ++ markers.wrapped span.content) ++
      ((markers.segment text).rest ++ markers.unclosedTail (markers.segment text).unclosed) = text := by
  have hwritten := markers.segment_written text
  have hspan : markers.writtenSpan = fun span => span.lead ++ markers.wrapped span.content := by
    funext span
    simp [writtenSpan, wrapped]
  rw [written, hspan, ← List.flatMap_def, List.append_assoc] at hwritten
  exact hwritten

theorem not_infix_of_contents_segment_wrapped {content : Text}
    (h : markers.contents (markers.segment (markers.wrapped content)) = [content]) :
    ¬ markers.closing.text <:+: content := by
  obtain ⟨span, hspans, hread⟩ := List.map_eq_singleton_iff.1 h
  obtain ⟨inner, after, hclose⟩ := cutLive?_of_mem_spans (hspans ▸ List.mem_singleton_self span)
  by_cases hoccurs : markers.closing.text <:+: span.content
  · -- What is found is read from something longer, for which there is no room between the markers.
    have hshorter := Marker.length_unescape_lt hclose hoccurs
    have hlength := congrArg List.length (markers.flatMap_spans_segment (markers.wrapped content))
    rw [hspans, List.flatMap_singleton] at hlength
    rw [hread] at hshorter
    simp only [wrapped, List.length_append] at hlength
    omega
  · rw [(Marker.unescape_eq_self_iff hclose).2 hoccurs] at hread
    exact hread ▸ hoccurs

/-- A content that leads to a closing marker is found again between the markers, as it reads, exactly if there
is no closing marker in it. -/
theorem contents_segment_wrapped_unescape_iff {inner content after : Text}
    (h : markers.closing.cutLive? false false inner = some (content, after)) :
    markers.contents (markers.segment (markers.wrapped (markers.closing.unescape content))) =
        [markers.closing.unescape content] ↔
      ¬ markers.closing.text <:+: content := by
  constructor
  · intro hfound hoccurs
    exact not_infix_of_contents_segment_wrapped hfound (Marker.infix_unescape hoccurs)
  · intro hnone
    have hsame := (Marker.unescape_eq_self_iff h).2 hnone
    have hclose := Marker.cutLive?_exchange h []
    rw [List.append_nil] at hclose
    rw [hsame, segment_wrapped hclose]
    simp [contents, hsame]

theorem assemble_map_contents (markers : Markers) (segmentation : Segmentation) (reply : Text → Text) :
    markers.assemble segmentation ((markers.contents segmentation).map reply) =
      (segmentation.spans.flatMap fun span =>
        markers.opening.unescape span.lead ++ reply (markers.closing.unescape span.content)) ++
        markers.ending segmentation := by
  obtain ⟨spans, rest, unclosed⟩ := segmentation
  induction spans with
  | nil => simp [contents, assemble, fragments, leads, ending, Text.weave]
  | cons span spans ih =>
    have hstep := markers.assemble_cons span ⟨spans, rest, unclosed⟩
      (reply (markers.closing.unescape span.content)) ((markers.contents ⟨spans, rest, unclosed⟩).map reply)
    rw [ih] at hstep
    rw [List.flatMap_cons, List.append_assoc]
    exact hstep

/-- A pass puts in the place of each span the reply to its content, as it reads. A span without an answer goes
back between its markers. It is there as it was written exactly if there is no closing marker in the content, and
exactly then a scan of the reply, taken by itself, finds its content again. -/
theorem unanswered_as_written_iff {ε : Type} (markers : Markers) (vars : Option Variables)
    (enableDefault : Bool) (separator text : Text) :
    let lookup := markers.lookup vars enableDefault separator
    let segmentation := markers.segment text
    (segmentation.spans.flatMap fun span => span.lead ++ markers.wrapped span.content) ++
        (segmentation.rest ++ markers.unclosedTail segmentation.unclosed) = text ∧
    (∃ notes, (markers.fill lookup.noted text : Noted ε Text).outcome =
      (.ok ((segmentation.spans.flatMap fun span =>
          markers.opening.unescape span.lead ++ lookup.reply (markers.closing.unescape span.content)) ++
        (markers.opening.unescape segmentation.rest ++ markers.unclosedTail segmentation.unclosed)), notes)) ∧
    ∀ span ∈ segmentation.spans, lookup.answer? (markers.closing.unescape span.content) = none →
      lookup.reply (markers.closing.unescape span.content) =
        markers.wrapped (markers.closing.unescape span.content) ∧
      (lookup.reply (markers.closing.unescape span.content) = markers.wrapped span.content ↔
        ¬ markers.closing.text <:+: span.content) ∧
      (markers.contents (markers.segment (lookup.reply (markers.closing.unescape span.content))) =
          [markers.closing.unescape span.content] ↔
        ¬ markers.closing.text <:+: span.content) := by
  intro lookup segmentation
  have hfill := markers.fill_noted (ε := ε) lookup text []
  rw [filled_eq_assemble, assemble_map_contents] at hfill
  refine ⟨markers.flatMap_spans_segment text, ⟨_, hfill⟩, fun span hspan hanswer => ?_⟩
  obtain ⟨inner, after, hclose⟩ := cutLive?_of_mem_spans hspan
  have hreply : lookup.reply (markers.closing.unescape span.content) =
      markers.wrapped (markers.closing.unescape span.content) := by
    rw [Lookup.reply, hanswer]
    rfl
  refine ⟨hreply, ?_, ?_⟩
  · rw [hreply, ← Marker.unescape_eq_self_iff hclose, wrapped, wrapped, List.append_assoc,
      List.append_assoc, List.append_cancel_left_eq, List.append_cancel_right_eq]
  · rw [hreply, contents_segment_wrapped_unescape_iff hclose]

end Markers

/-- Without variables no span has an answer. A closing marker behind a backslash loses the backslash, and all
that a scan of the reply finds of the content is what stands before that marker. -/
theorem Property.unanswered_not_as_written :
    Property.markers.segment "$\x7ba\\\x7db\x7d".toList = ⟨[⟨[], "a\\\x7db".toList⟩], [], none⟩ ∧
    (Property.lookup none none none).answer? "a\x7db".toList = none ∧
    (Property.fill none none none "$\x7ba\\\x7db\x7d".toList).outcome =
      (.ok "$\x7ba\x7db\x7d".toList, []) ∧
    Property.markers.contents (Property.markers.segment "$\x7ba\\\x7db\x7d".toList) =
      ["a\x7db".toList] ∧
    Property.markers.contents (Property.markers.segment "$\x7ba\x7db\x7d".toList) = ["a".toList] := by
  decide +kernel

end Stencil
