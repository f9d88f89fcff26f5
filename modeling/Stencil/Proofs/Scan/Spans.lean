import Stencil.Proofs.Text.Occurrence
import Stencil.Scan
import Stencil.Segmentation

/-!
The scan and the segmentation. A scan asks for replies while it reads, so what it does next might depend
on them. It does not: a scan asks for the contents that the segmentation of the text has, in their order,
and puts the replies between the literal texts that the segmentation has (`fill_eq_assemble`).

The invariant of the loop is a text of the form `done ++ rest` with the cursor at the end of `done`. All
that the rest of a scan needs to know of `done` is whether it ends in a backslash.
-/

namespace Stencil

namespace Text

theorem endsInEscape_append (front back : Text) :
    endsInEscape (front ++ back) =
      if back = [] then endsInEscape front else endsInEscape back := by
  unfold endsInEscape
  cases back using List.reverseRecOn <;> simp

theorem isEscaped_endsInEscape (done before : Text) :
    Marker.isEscaped done.endsInEscape before = endsInEscape (done ++ before) := by
  cases before <;> simp [Marker.isEscaped, endsInEscape_append]

/-! ### A text at a cursor

The cursor stands behind `done`, and the part is found in `rest` behind `before`. -/

theorem isEscapedAt_at (done rest : Text) :
    isEscapedAt (done ++ rest) done.length = done.endsInEscape := by
  cases done using List.reverseRecOn with
  | nil => rfl
  | append_singleton done c => simp [isEscapedAt, endsInEscape]

theorem find?_of_cut?_eq_none {part done rest : Text} (h : cut? part rest = none) :
    find? part (done ++ rest) done.length = none := by
  simp [find?, h]

section

variable {part done rest before after : Text} (h : cut? part rest = some (before, after))

include h

theorem find?_of_cut? :
    find? part (done ++ rest) done.length = some (done.length + before.length) := by
  simp [find?, h]

theorem append_of_cut? : done ++ rest = done ++ before ++ part ++ after := by
  simp [cut?_eq_some h]

theorem slice_of_cut? :
    slice (done ++ rest) done.length (done.length + before.length) = before := by
  simp [slice, cut?_eq_some h]

theorem slice_pred_of_cut? :
    slice (done ++ rest) done.length (done.length + before.length - 1) = before.dropLast := by
  have hlength : done.length + before.length - 1 - done.length = before.length - 1 := by omega
  rw [slice, List.drop_left, hlength, cut?_eq_some h, List.append_assoc,
    List.take_append_of_le_length (by omega), List.dropLast_eq_take]

theorem drop_of_cut? : (done ++ rest).drop (done.length + before.length) = part ++ after := by
  simp [cut?_eq_some h, List.drop_append]

theorem isEscapedAt_of_cut? :
    isEscapedAt (done ++ rest) (done.length + before.length) = endsInEscape (done ++ before) := by
  rw [append_of_cut? h, ← List.length_append, List.append_assoc, isEscapedAt_at]

end

end Text

namespace Marker

theorem endsInEscape_append_text (marker : Marker) (front : Text) :
    Text.endsInEscape (front ++ marker.text) = marker.endsInEscape := by
  simp [Text.endsInEscape_append, marker.nonempty, endsInEscape]

theorem isEscaped_false (before : Text) : isEscaped false before = before.endsInEscape := by
  cases before <;> rfl

/-! ### How a stretch reads -/

theorem unescape_of_cut?_eq_none {marker : Marker} {text : Text}
    (h : Text.cut? marker.text text = none) : marker.unescape text = text := by
  rw [unescape_eq, h]

@[simp] theorem unescape_nil (marker : Marker) : marker.unescape [] = [] :=
  unescape_of_cut?_eq_none (Text.cut?_eq_none_iff.2 (by simp [marker.nonempty]))

theorem unescape_before {marker : Marker} {text before after : Text}
    (h : Text.cut? marker.text text = some (before, after)) : marker.unescape before = before :=
  unescape_of_cut?_eq_none (Text.cut?_eq_none_iff.2 (Text.not_infix_of_cut? marker.nonempty h))

theorem unescape_append {marker : Marker} {text before after : Text}
    (h : Text.cut? marker.text text = some (before, after)) (more : Text) :
    marker.unescape (before ++ marker.text ++ more) =
      before.dropLast ++ marker.text ++ marker.unescape more := by
  rw [unescape_eq, Text.cut?_exchange marker.nonempty h]

theorem length_unescape_le (marker : Marker) (text : Text) :
    (marker.unescape text).length ≤ text.length := by
  induction text using Text.cut_induction marker.nonempty with
  | last text hcut => rw [unescape_of_cut?_eq_none hcut]
  | next text before after hcut ih =>
    have hread := unescape_append hcut after
    rw [← Text.cut?_eq_some hcut] at hread
    have hlength := congrArg List.length (Text.cut?_eq_some hcut)
    rw [hread]
    simp only [List.length_append, List.length_dropLast] at hlength ⊢
    omega

/-! ### The closing marker -/

theorem cutLive?_of_cut?_eq_none {marker : Marker} {carry behind : Bool} {text : Text}
    (h : Text.cut? marker.text text = none) : marker.cutLive? carry behind text = none := by
  rw [cutLive?_eq, h]

theorem cutLive?_of_live {marker : Marker} {carry behind : Bool} {text before after : Text}
    (h : Text.cut? marker.text text = some (before, after))
    (hlive : isEscaped behind before = false) :
    marker.cutLive? carry behind text = some (before, after) := by
  simp [cutLive?_eq, h, hlive]

theorem cutLive?_of_escaped {marker : Marker} {carry behind : Bool} {text before after : Text}
    (h : Text.cut? marker.text text = some (before, after))
    (hescaped : isEscaped behind before = true) :
    marker.cutLive? carry behind text =
      (marker.cutLive? carry carry after).map fun (more, rest) =>
        (before ++ marker.text ++ more, rest) := by
  rw [cutLive?_eq marker carry behind text]
  simp [h, hescaped]

/-- Without a live marker in it a text has a backslash before the first one, and none that is live behind that. -/
theorem cutLive?_eq_none_iff_of_cut? {marker : Marker} {carry behind : Bool} {text before after : Text}
    (h : Text.cut? marker.text text = some (before, after)) :
    marker.cutLive? carry behind text = none ↔
      isEscaped behind before = true ∧ marker.cutLive? carry carry after = none := by
  cases hescaped : isEscaped behind before with
  | false => simp [cutLive?_of_live h hescaped]
  | true => simp [cutLive?_of_escaped h hescaped]

/-- Induction over the stretch that leads to a live marker, from one marker in it to the next. -/
@[elab_as_elim]
theorem lead_induction {marker : Marker} {carry : Bool}
    {motive : ∀ behind text lead rest, marker.cutLive? carry behind text = some (lead, rest) → Prop}
    {behind : Bool} {text lead rest : Text}
    (h : marker.cutLive? carry behind text = some (lead, rest))
    (live : ∀ {behind text lead rest} (hcut : Text.cut? marker.text text = some (lead, rest))
      (hlive : isEscaped behind lead = false),
      motive behind text lead rest (cutLive?_of_live hcut hlive))
    (escaped : ∀ {behind text before after more rest}
      (hcut : Text.cut? marker.text text = some (before, after)) (hescaped : isEscaped behind before = true)
      (hmore : marker.cutLive? carry carry after = some (more, rest)), motive carry after more rest hmore →
      motive behind text (before ++ marker.text ++ more) rest
        (by rw [cutLive?_of_escaped hcut hescaped, hmore, Option.map_some])) :
    motive behind text lead rest h := by
  induction text using Text.cut_induction marker.nonempty generalizing behind lead with
  | last text hcut => simp [cutLive?_of_cut?_eq_none hcut] at h
  | next text before after hcut ih =>
    cases hescaped : isEscaped behind before with
    | false =>
      have hfirst := h
      rw [cutLive?_of_live hcut hescaped, Option.some.injEq, Prod.mk.injEq] at hfirst
      obtain ⟨rfl, rfl⟩ := hfirst
      exact live hcut hescaped
    | true =>
      have hlater := h
      rw [cutLive?_of_escaped hcut hescaped, Option.map_eq_some_iff] at hlater
      obtain ⟨⟨more, tail⟩, hmore, heq⟩ := hlater
      obtain ⟨rfl, rfl⟩ := Prod.mk.inj heq
      exact escaped hcut hescaped hmore (ih hmore)

theorem cutLive?_lead {marker : Marker} {carry behind : Bool} {text lead rest : Text}
    (h : marker.cutLive? carry behind text = some (lead, rest)) :
    marker.cutLive? carry behind lead = none := by
  induction h using lead_induction with
  | live hcut _ =>
    exact cutLive?_of_cut?_eq_none
      (Text.cut?_eq_none_iff.2 (Text.not_infix_of_cut? marker.nonempty hcut))
  | escaped hcut hescaped _ ih =>
    exact (cutLive?_eq_none_iff_of_cut? (Text.cut?_exchange marker.nonempty hcut _)).2 ⟨hescaped, ih⟩

/-- A backslash before a text takes away the meaning of a marker that begins the text, and of no other. -/
theorem cutLive?_eq_of_not_isPrefix {marker : Marker} {behind : Bool} {text : Text}
    (h : behind = true → ¬ marker.text <+: text) (carry : Bool) :
    marker.cutLive? carry behind text = marker.cutLive? carry false text := by
  cases hcut : Text.cut? marker.text text with
  | none => rw [cutLive?_of_cut?_eq_none hcut, cutLive?_of_cut?_eq_none hcut]
  | some cut =>
    obtain ⟨before, after⟩ := cut
    have hsame : isEscaped behind before = isEscaped false before := by
      cases before with
      | nil => exact Bool.eq_false_iff.2 fun hbehind => h hbehind ⟨after, (Text.cut?_eq_some hcut).symm⟩
      | cons c before => rfl
    rw [cutLive?_eq, cutLive?_eq marker carry false, hcut]
    simp only [hsame]

theorem closeFrom?_of_cut?_eq_none {marker : Marker} {done rest : Text} (pieces : List Text)
    (h : Text.cut? marker.text rest = none) :
    marker.closeFrom? (done ++ rest) done.length pieces = none := by
  rw [closeFrom?_eq, Text.find?_of_cut?_eq_none h]

/-- The test before a closing marker asks for a backslash, and for a character behind the cursor. Together
they ask for a backslash behind the cursor. -/
theorem escaped_behind_cursor_iff {marker : Marker} {done rest before after : Text}
    (h : Text.cut? marker.text rest = some (before, after)) :
    (done.length < done.length + before.length ∧
        Text.isEscapedAt (done ++ rest) (done.length + before.length) = true) ↔
      isEscaped false before = true := by
  rw [Text.isEscapedAt_of_cut? h, Text.endsInEscape_append]
  cases before with
  | nil => simp [isEscaped]
  | cons c before => simp [isEscaped]

theorem closeFrom?_of_live {marker : Marker} {done rest before after : Text} (pieces : List Text)
    (h : Text.cut? marker.text rest = some (before, after))
    (hlive : isEscaped false before = false) :
    marker.closeFrom? (done ++ rest) done.length pieces =
      some ((pieces ++ [before]).flatten, done.length + before.length) := by
  have htest : ¬ (done.length < done.length + before.length ∧
      Text.isEscapedAt (done ++ rest) (done.length + before.length) = true) := by
    rw [escaped_behind_cursor_iff h, hlive]
    exact Bool.false_ne_true
  rw [closeFrom?_eq, Text.find?_of_cut? h]
  simp only
  rw [if_neg htest, Text.slice_of_cut? h]

theorem closeFrom?_of_escaped {marker : Marker} {done rest before after : Text} (pieces : List Text)
    (h : Text.cut? marker.text rest = some (before, after))
    (hescaped : isEscaped false before = true) :
    marker.closeFrom? (done ++ rest) done.length pieces =
      marker.closeFrom? (done ++ before ++ marker.text ++ after)
        (done ++ before ++ marker.text).length (pieces ++ [before.dropLast, marker.text]) := by
  have hcursor : (done ++ before ++ marker.text).length =
      done.length + before.length + marker.length := by simp [length, Nat.add_assoc]
  rw [closeFrom?_eq, Text.find?_of_cut? h]
  simp only
  rw [if_pos ((escaped_behind_cursor_iff h).2 hescaped), Text.slice_pred_of_cut? h, hcursor,
    Text.append_of_cut? h]

theorem closeFrom?_at (marker : Marker) (done rest : Text) (pieces : List Text) :
    marker.closeFrom? (done ++ rest) done.length pieces =
      (marker.cutLive? false false rest).map fun (content, _) =>
        (pieces.flatten ++ marker.unescape content, done.length + content.length) := by
  induction rest using WellFounded.induction (measure List.length).wf
    generalizing done pieces with
  | _ rest ih =>
    cases hcut : Text.cut? marker.text rest with
    | none => rw [closeFrom?_of_cut?_eq_none pieces hcut, cutLive?_of_cut?_eq_none hcut, Option.map_none]
    | some cut =>
      obtain ⟨before, after⟩ := cut
      cases hescaped : isEscaped false before with
      | false =>
        rw [closeFrom?_of_live pieces hcut hescaped, cutLive?_of_live hcut hescaped]
        simp [unescape_before hcut]
      | true =>
        rw [closeFrom?_of_escaped pieces hcut hescaped, cutLive?_of_escaped hcut hescaped,
          ih after (Text.length_lt_of_cut? marker.nonempty hcut), Option.map_map]
        refine congrArg (Option.map · _) (funext fun (more, tail) => ?_)
        -- The rest of the content reads the same with the escaped marker in front of it.
        simp only [Function.comp_apply, unescape_append hcut]
        simp [Nat.add_assoc]

end Marker

/-! ### The segmentation, step by step -/

namespace Segmentation

/-- Puts text in front of the first literal stretch. -/
def extend (front : Text) : Segmentation → Segmentation
  | ⟨[], rest, unclosed⟩ => ⟨[], front ++ rest, unclosed⟩
  | ⟨span :: spans, rest, unclosed⟩ => ⟨⟨front ++ span.lead, span.content⟩ :: spans, rest, unclosed⟩

/-- The first literal stretch. -/
def head : Segmentation → Text
  | ⟨[], rest, _⟩ => rest
  | ⟨span :: _, _, _⟩ => span.lead

end Segmentation

namespace Markers

variable {markers : Markers} {behind : Bool} {text : Text}

theorem segmentFrom_of_cutLive?_eq_none
    (h : markers.opening.cutLive? markers.opening.endsInEscape behind text = none) :
    markers.segmentFrom behind text = ⟨[], text, none⟩ := by
  rw [segmentFrom_eq, h]

theorem segmentFrom_of_unclosed {lead inner : Text}
    (hopen : markers.opening.cutLive? markers.opening.endsInEscape behind text = some (lead, inner))
    (hclose : markers.closing.cutLive? false false inner = none) :
    markers.segmentFrom behind text = ⟨[], lead, some inner⟩ := by
  simp [segmentFrom_eq markers behind text, hopen, hclose]

theorem segmentFrom_of_closed {lead inner content after : Text}
    (hopen : markers.opening.cutLive? markers.opening.endsInEscape behind text = some (lead, inner))
    (hclose : markers.closing.cutLive? false false inner = some (content, after)) :
    markers.segmentFrom behind text =
      .cons ⟨lead, content⟩ (markers.segmentFrom markers.closing.endsInEscape after) := by
  rw [segmentFrom_eq markers behind text]
  simp [hopen, hclose]

/-- A backslash before a text that does not begin with the opening marker makes no difference to its spans. -/
theorem segmentFrom_eq_segment (h : behind = true → ¬ markers.opening.text <+: text) :
    markers.segmentFrom behind text = markers.segment text := by
  rw [segment, segmentFrom_eq, segmentFrom_eq markers false, Marker.cutLive?_eq_of_not_isPrefix h]

/-- Induction over a text from one closed span to the next. -/
@[elab_as_elim]
theorem segment_induction (markers : Markers) {motive : Bool → Text → Prop} (behind : Bool) (text : Text)
    (bare : ∀ behind text,
      markers.opening.cutLive? markers.opening.endsInEscape behind text = none → motive behind text)
    (unclosed : ∀ behind text lead inner,
      markers.opening.cutLive? markers.opening.endsInEscape behind text = some (lead, inner) →
      markers.closing.cutLive? false false inner = none → motive behind text)
    (closed : ∀ behind text lead inner content after,
      markers.opening.cutLive? markers.opening.endsInEscape behind text = some (lead, inner) →
      markers.closing.cutLive? false false inner = some (content, after) →
      motive markers.closing.endsInEscape after → motive behind text) :
    motive behind text := by
  induction text using WellFounded.induction (measure List.length).wf generalizing behind with
  | _ text ih =>
    cases hopen : markers.opening.cutLive? markers.opening.endsInEscape behind text with
    | none => exact bare behind text hopen
    | some opened =>
      obtain ⟨lead, inner⟩ := opened
      cases hclose : markers.closing.cutLive? false false inner with
      | none => exact unclosed behind text lead inner hopen hclose
      | some closing =>
        obtain ⟨content, after⟩ := closing
        have hlt := Nat.lt_trans (Marker.length_lt_of_cutLive? hclose)
          (Marker.length_lt_of_cutLive? hopen)
        exact closed behind text lead inner content after hopen hclose (ih after hlt _)

/-- What stands before the text, and is passed over by the search for the opening marker, belongs to the first
stretch. -/
theorem segmentFrom_extend {front rest : Text} {between : Bool}
    (h : markers.opening.cutLive? markers.opening.endsInEscape behind (front ++ rest) =
      (markers.opening.cutLive? markers.opening.endsInEscape between rest).map fun (lead, inner) =>
        (front ++ lead, inner)) :
    markers.segmentFrom behind (front ++ rest) = (markers.segmentFrom between rest).extend front := by
  cases hopen : markers.opening.cutLive? markers.opening.endsInEscape between rest with
  | none =>
    rw [hopen, Option.map_none] at h
    rw [segmentFrom_of_cutLive?_eq_none h, segmentFrom_of_cutLive?_eq_none hopen, Segmentation.extend]
  | some opened =>
    obtain ⟨lead, inner⟩ := opened
    rw [hopen, Option.map_some] at h
    cases hclose : markers.closing.cutLive? false false inner with
    | none =>
      rw [segmentFrom_of_unclosed h hclose, segmentFrom_of_unclosed hopen hclose, Segmentation.extend]
    | some closed =>
      rw [segmentFrom_of_closed h hclose, segmentFrom_of_closed hopen hclose]
      rfl

theorem segmentFrom_of_escaped {before after : Text}
    (hcut : Text.cut? markers.opening.text text = some (before, after))
    (hescaped : Marker.isEscaped behind before = true) :
    markers.segmentFrom behind text =
      (markers.segmentFrom markers.opening.endsInEscape after).extend
        (before ++ markers.opening.text) := by
  have hskip : markers.opening.cutLive? markers.opening.endsInEscape behind text = _ :=
    Marker.cutLive?_of_escaped hcut hescaped
  rw [Text.cut?_eq_some hcut] at hskip ⊢
  exact segmentFrom_extend hskip

@[simp] theorem contents_extend (front : Text) (segmentation : Segmentation) :
    markers.contents (segmentation.extend front) = markers.contents segmentation := by
  obtain ⟨_ | ⟨span, spans⟩, rest, unclosed⟩ := segmentation <;> rfl

@[simp] theorem contents_cons (span : Span) (segmentation : Segmentation) :
    markers.contents (.cons span segmentation) =
      markers.closing.unescape span.content :: markers.contents segmentation := rfl

theorem assemble_cons (span : Span) (segmentation : Segmentation) (reply : Text)
    (replies : List Text) :
    markers.assemble (.cons span segmentation) (reply :: replies) =
      markers.opening.unescape span.lead ++ reply ++ markers.assemble segmentation replies := rfl

theorem assemble_extend_of_unescape {front read : Text} {segmentation : Segmentation}
    (h : markers.opening.unescape (front ++ segmentation.head) =
      read ++ markers.opening.unescape segmentation.head) (replies : List Text) :
    markers.assemble (segmentation.extend front) replies =
      read ++ markers.assemble segmentation replies := by
  obtain ⟨_ | ⟨span, spans⟩, rest, unclosed⟩ := segmentation <;> cases replies <;>
    simp_all [assemble, fragments, leads, ending, Segmentation.extend, Segmentation.head, Text.weave]

theorem assemble_extend {before after : Text}
    (hcut : Text.cut? markers.opening.text text = some (before, after))
    (segmentation : Segmentation) (replies : List Text) :
    markers.assemble (segmentation.extend (before ++ markers.opening.text)) replies =
      before.dropLast ++ markers.opening.text ++ markers.assemble segmentation replies :=
  assemble_extend_of_unescape (Marker.unescape_append hcut segmentation.head) replies

/-! ### The scan, step by step -/

section

variable {m : Type → Type} [Monad m] (reply : Text → m Text) {done rest before after : Text}
  (pieces : List Text)

theorem scanFrom_of_cut?_eq_none (h : Text.cut? markers.opening.text rest = none) :
    markers.scanFrom reply (done ++ rest) done.length pieces =
      (return (pieces ++ [rest]).flatten) := by
  rw [scanFrom_eq, Text.find?_of_cut?_eq_none h]
  simp only [List.drop_left]

theorem scanFrom_of_escaped (h : Text.cut? markers.opening.text rest = some (before, after))
    (hescaped : Marker.isEscaped done.endsInEscape before = true) :
    markers.scanFrom reply (done ++ rest) done.length pieces =
      markers.scanFrom reply (done ++ before ++ markers.opening.text ++ after)
        (done ++ before ++ markers.opening.text).length
        (pieces ++ [before.dropLast, markers.opening.text]) := by
  have hcursor : (done ++ before ++ markers.opening.text).length =
      done.length + before.length + markers.opening.length := by simp [Marker.length, Nat.add_assoc]
  have htest : Text.isEscapedAt (done ++ rest) (done.length + before.length) = true := by
    rw [Text.isEscapedAt_of_cut? h, ← Text.isEscaped_endsInEscape, hescaped]
  rw [scanFrom_eq, Text.find?_of_cut? h]
  simp only
  rw [if_pos htest, Text.slice_pred_of_cut? h, hcursor, Text.append_of_cut? h]

theorem scanFrom_of_live (h : Text.cut? markers.opening.text rest = some (before, after))
    (hlive : Marker.isEscaped done.endsInEscape before = false) :
    markers.scanFrom reply (done ++ rest) done.length pieces =
      match markers.closing.cutLive? false false after with
      | none => return (pieces ++ [before, markers.opening.text ++ after]).flatten
      | some (content, tail) =>
        reply (markers.closing.unescape content) >>= fun answer =>
          markers.scanFrom reply
            (done ++ before ++ markers.opening.text ++ content ++ markers.closing.text ++ tail)
            (done ++ before ++ markers.opening.text ++ content ++ markers.closing.text).length
            (pieces ++ [before, answer]) := by
  have hcursor : done.length + before.length + markers.opening.length =
      (done ++ before ++ markers.opening.text).length := by simp [Marker.length, Nat.add_assoc]
  have htest : ¬ Text.isEscapedAt (done ++ rest) (done.length + before.length) = true := by
    rw [Text.isEscapedAt_of_cut? h, ← Text.isEscaped_endsInEscape, hlive]
    exact Bool.false_ne_true
  rw [scanFrom_eq, Text.find?_of_cut? h]
  simp only
  rw [if_neg htest, Text.slice_of_cut? h, Text.drop_of_cut? h, hcursor,
    Text.append_of_cut? h, Marker.closeFrom?_at]
  cases hclose : markers.closing.cutLive? false false after with
  | none => rfl
  | some closed =>
    obtain ⟨content, tail⟩ := closed
    have hstop : (done ++ before ++ markers.opening.text).length + content.length +
        markers.closing.length =
        (done ++ before ++ markers.opening.text ++ content ++ markers.closing.text).length := by
      simp [Marker.length, Nat.add_assoc]
    have hnext : done ++ before ++ markers.opening.text ++ after =
        done ++ before ++ markers.opening.text ++ content ++ markers.closing.text ++ tail := by
      simp [Marker.cutLive?_eq_some hclose]
    simp only [Option.map_some, hstop, hnext]
    rfl

end

/-- A scan from the end of `done` on asks for the contents of the spans in the rest and puts the replies
between the literal texts there. -/
theorem scanFrom_at {m : Type → Type} [Monad m] [LawfulMonad m] (markers : Markers)
    (reply : Text → m Text) (done rest : Text) (pieces : List Text) :
    markers.scanFrom reply (done ++ rest) done.length pieces = do
      let replies ← (markers.contents (markers.segmentFrom done.endsInEscape rest)).mapM reply
      return pieces.flatten ++
        markers.assemble (markers.segmentFrom done.endsInEscape rest) replies := by
  -- Each step moves the front of the rest over to `done`, so the induction is on the length of the rest.
  induction rest using WellFounded.induction (measure List.length).wf
    generalizing done pieces with
  | _ rest ih =>
    cases hcut : Text.cut? markers.opening.text rest with
    | none =>
      rw [scanFrom_of_cut?_eq_none reply pieces hcut,
        segmentFrom_of_cutLive?_eq_none (Marker.cutLive?_of_cut?_eq_none hcut)]
      simp [contents, assemble, fragments, leads, ending, unclosedTail, Text.weave,
        Marker.unescape_of_cut?_eq_none hcut]
    | some cut =>
      obtain ⟨before, after⟩ := cut
      have hshorter := Text.length_lt_of_cut? markers.opening.nonempty hcut
      cases hescaped : Marker.isEscaped done.endsInEscape before with
      | true =>
        rw [scanFrom_of_escaped reply pieces hcut hescaped, ih after hshorter,
          Marker.endsInEscape_append_text, segmentFrom_of_escaped hcut hescaped]
        simp [assemble_extend hcut]
      | false =>
        have hopen : markers.opening.cutLive? markers.opening.endsInEscape done.endsInEscape rest =
            some (before, after) := Marker.cutLive?_of_live hcut hescaped
        rw [scanFrom_of_live reply pieces hcut hescaped]
        cases hclose : markers.closing.cutLive? false false after with
        | none =>
          rw [segmentFrom_of_unclosed hopen hclose]
          simp [contents, assemble, fragments, leads, ending, unclosedTail, Text.weave,
            Marker.unescape_before hcut]
        | some closed =>
          obtain ⟨content, tail⟩ := closed
          have htail := Nat.lt_trans (Marker.length_lt_of_cutLive? hclose) hshorter
          simp only [ih tail htail, Marker.endsInEscape_append_text,
            segmentFrom_of_closed hopen hclose, contents_cons, List.mapM_cons]
          simp [assemble_cons, Marker.unescape_before hcut]

/-- A scan asks for the contents of the spans in their order and puts the replies between the literal
texts. -/
theorem fill_eq_assemble {m : Type → Type} [Monad m] [LawfulMonad m] (markers : Markers)
    (reply : Text → m Text) (text : Text) :
    markers.fill reply text = do
      let replies ← (markers.contents (markers.segment text)).mapM reply
      return markers.assemble (markers.segment text) replies := by
  simpa [fill, segment, Text.endsInEscape] using scanFrom_at markers reply [] text []

end Markers

end Stencil
