import Stencil.Proofs.Scan.Spans

/-!
What a scan means, said without a scan. A text is searched for a marker from left to right, and each
search goes on behind the last occurrence found (`Marker.places`). A stretch is silent if every occurrence
found in it has a backslash of the stretch before it, and it leads to the marker behind it if that marker
is the first occurrence found without one. A decomposition of a text consists of such stretches
(`Markers.Decomposes`).

For markers that do not end in a backslash every text has exactly one decomposition, and a scan is what
the decomposition says it is (`fill_eq_of_decomposes`). A marker that ends in a backslash may take away
the meaning of the next one, and then the backslash does not belong to the stretch in between.
-/

namespace Stencil

namespace Text

def replaceAll (old : Marker) (new text : Text) : Text :=
  match _cut : cut? old.text text with
  | none => text
  | some (before, after) => before ++ new ++ replaceAll old new after
  termination_by text.length
  decreasing_by exact length_lt_of_cut? old.nonempty _cut

theorem replaceAll_eq (old : Marker) (new text : Text) :
    replaceAll old new text =
      match cut? old.text text with
      | none => text
      | some (before, after) => before ++ new ++ replaceAll old new after := by
  rw [replaceAll]
  split <;> simp [*]

theorem isEscapedAt_append_left {front back : Text} {place : Nat} (h : place ≤ front.length) :
    isEscapedAt (front ++ back) place = isEscapedAt front place := by
  cases place with
  | zero => rfl
  | succ place => simp [isEscapedAt, List.getElem?_append_left h]

theorem isEscapedAt_append_right {front : Text} (h : front.endsInEscape = false) (back : Text)
    (place : Nat) : isEscapedAt (front ++ back) (front.length + place) = isEscapedAt back place := by
  cases place with
  | zero =>
    rw [Nat.add_zero, isEscapedAt_at, h]
    rfl
  | succ place =>
    have hneighbour : (front ++ back)[front.length + place]? = back[place]? := by
      rw [List.getElem?_append_right (Nat.le_add_right _ _), Nat.add_sub_cancel_left]
    have hpos : 0 < front.length + (place + 1) := by omega
    simp [isEscapedAt, hneighbour, hpos]

end Text

namespace Marker

def escaped (marker : Marker) : Marker :=
  ⟨Text.escape :: marker.text, nofun⟩

/-- The places where the marker is found when a text is searched from left to right and each search goes
on behind the last occurrence. -/
def places (marker : Marker) (text : Text) : List Nat :=
  match _cut : Text.cut? marker.text text with
  | none => []
  | some (before, after) =>
    before.length :: (marker.places after).map (before.length + marker.length + ·)
  termination_by text.length
  decreasing_by exact Text.length_lt_of_cut? marker.nonempty _cut

theorem places_eq (marker : Marker) (text : Text) :
    marker.places text =
      match Text.cut? marker.text text with
      | none => []
      | some (before, after) =>
        before.length :: (marker.places after).map (before.length + marker.length + ·) := by
  rw [places]
  split <;> simp [*]

/-- Every occurrence found in the text has a backslash of the text before it. -/
def Silent (marker : Marker) (text : Text) : Prop :=
  ∀ place ∈ marker.places text, text.isEscapedAt place = true

/-- The marker between `lead` and `rest` is the first occurrence found without a backslash before it: what
is found sooner is found in `lead`, and there it has a backslash before it. -/
structure Leads (marker : Marker) (lead rest : Text) : Prop where
  silent : marker.Silent lead
  found : marker.places lead ++ [lead.length] <+: marker.places (lead ++ marker.text ++ rest)
  live : Text.isEscapedAt (lead ++ marker.text ++ rest) lead.length = false

end Marker

/-- The text is written as the segmentation says, in stretches that are silent or lead to the marker
behind them. -/
inductive Markers.Decomposes (markers : Markers) : Text → Segmentation → Prop
  | silent {rest : Text} : markers.opening.Silent rest → markers.Decomposes rest ⟨[], rest, none⟩
  | unclosed {rest tail : Text} : markers.opening.Leads rest tail → markers.closing.Silent tail →
      markers.Decomposes (rest ++ markers.opening.text ++ tail) ⟨[], rest, some tail⟩
  | span {lead content text : Text} {segmentation : Segmentation} :
      markers.opening.Leads lead (content ++ markers.closing.text ++ text) →
      markers.closing.Leads content text → markers.Decomposes text segmentation →
      markers.Decomposes
        (lead ++ markers.opening.text ++ (content ++ markers.closing.text ++ text))
        (.cons ⟨lead, content⟩ segmentation)

namespace Marker

variable {marker : Marker}

theorem places_of_cut? {text before after : Text}
    (h : Text.cut? marker.text text = some (before, after)) :
    marker.places text =
      before.length :: (marker.places after).map (before.length + marker.length + ·) := by
  rw [places_eq, h]

theorem places_of_cut?_eq_none {text : Text} (h : Text.cut? marker.text text = none) :
    marker.places text = [] := by
  rw [places_eq, h]

theorem le_length_of_mem_places {text : Text} {place : Nat} (h : place ∈ marker.places text) :
    place ≤ text.length := by
  induction text using Text.cut_induction marker.nonempty generalizing place with
  | last text hcut => simp [places_of_cut?_eq_none hcut] at h
  | next text before after hcut ih =>
    have hlength := congrArg List.length (Text.cut?_eq_some hcut)
    simp only [List.length_append] at hlength
    rw [places_of_cut? hcut, List.mem_cons, List.mem_map] at h
    rcases h with rfl | ⟨later, hlater, rfl⟩
    · omega
    · have := ih hlater
      unfold length
      omega

/-- A text with an occurrence in it is silent if that occurrence has a backslash before it and what
stands behind is silent. -/
theorem silent_iff_of_cut? (hmarker : marker.endsInEscape = false) {text before after : Text}
    (h : Text.cut? marker.text text = some (before, after)) :
    marker.Silent text ↔ before.endsInEscape = true ∧ marker.Silent after := by
  have htext := Text.cut?_eq_some h
  have hfront : (before ++ marker.text).endsInEscape = false := by
    rw [endsInEscape_append_text, hmarker]
  have hfirst : text.isEscapedAt before.length = before.endsInEscape := by
    rw [htext, List.append_assoc, Text.isEscapedAt_at]
  have hlater (place : Nat) :
      text.isEscapedAt (before.length + marker.length + place) = after.isEscapedAt place := by
    have := Text.isEscapedAt_append_right hfront after place
    rwa [← htext, List.length_append] at this
  unfold Silent
  rw [places_of_cut? h]
  simp [hfirst, hlater]

theorem cutLive?_eq_none_iff (hmarker : marker.endsInEscape = false) {text : Text} :
    marker.cutLive? false false text = none ↔ marker.Silent text := by
  induction text using Text.cut_induction marker.nonempty with
  | last text hcut => simp [cutLive?_of_cut?_eq_none hcut, Silent, places_of_cut?_eq_none hcut]
  | next text before after hcut ih =>
    rw [silent_iff_of_cut? hmarker hcut, cutLive?_eq_none_iff_of_cut? hcut, isEscaped_false, ih]

theorem leads_of_cut? {text before after : Text}
    (h : Text.cut? marker.text text = some (before, after)) (hlive : before.endsInEscape = false) :
    marker.Leads before after := by
  have hnone : marker.places before = [] := places_of_cut?_eq_none
    (Text.cut?_eq_none_iff.2 (Text.not_infix_of_cut? marker.nonempty h))
  refine ⟨by simp [Silent, hnone], ?_, ?_⟩
  · rw [hnone, places_of_cut? (Text.cut?_exchange marker.nonempty h after)]
    simp
  · rw [List.append_assoc, Text.isEscapedAt_at, hlive]

/-- A stretch still leads to its marker with an occurrence in front that has a backslash before it. -/
theorem Leads.behind_escaped (hmarker : marker.endsInEscape = false)
    {text before after more rest : Text} (hcut : Text.cut? marker.text text = some (before, after))
    (hescaped : before.endsInEscape = true) (h : marker.Leads more rest) :
    marker.Leads (before ++ marker.text ++ more) rest := by
  obtain ⟨hsilent, hfound, hlive⟩ := h
  have hlead := Text.cut?_exchange marker.nonempty hcut more
  have hwhole := Text.cut?_exchange marker.nonempty hcut (more ++ marker.text ++ rest)
  refine ⟨(silent_iff_of_cut? hmarker hlead).2 ⟨hescaped, hsilent⟩, ?_, ?_⟩
  · -- The places found behind the occurrence move on by its end.
    have hassoc : before ++ marker.text ++ more ++ marker.text ++ rest =
        before ++ marker.text ++ (more ++ marker.text ++ rest) := by simp
    have hlength : (before ++ marker.text ++ more).length =
        before.length + marker.length + more.length := by simp [length, Nat.add_assoc]
    have hmoved := hfound.map (before.length + marker.length + ·)
    rw [List.map_append, List.map_singleton, ← hlength] at hmoved
    rw [hassoc, places_of_cut? hlead, places_of_cut? hwhole, List.cons_append]
    exact (List.prefix_cons_inj _).2 hmoved
  · rw [List.append_assoc, Text.isEscapedAt_at] at hlive ⊢
    rw [Text.endsInEscape_append, endsInEscape_append_text, hmarker, hlive]
    simp

theorem leads_of_cutLive? (hmarker : marker.endsInEscape = false) {text lead rest : Text}
    (h : marker.cutLive? false false text = some (lead, rest)) : marker.Leads lead rest := by
  induction text using Text.cut_induction marker.nonempty generalizing lead with
  | last text hcut => simp [cutLive?_of_cut?_eq_none hcut] at h
  | next text before after hcut ih =>
    cases hescaped : before.endsInEscape with
    | false =>
      rw [cutLive?_of_live hcut (by rw [isEscaped_false, hescaped]), Option.some.injEq,
        Prod.mk.injEq] at h
      obtain ⟨rfl, rfl⟩ := h
      exact leads_of_cut? hcut hescaped
    | true =>
      rw [cutLive?_of_escaped hcut (by rw [isEscaped_false, hescaped])] at h
      simp only [Option.map_eq_some_iff, Prod.mk.injEq, Prod.exists] at h
      obtain ⟨more, tail, hmore, rfl, rfl⟩ := h
      have hleads := ih hmore
      exact hleads.behind_escaped hmarker hcut hescaped

theorem Leads.find?_places {lead rest : Text} (h : marker.Leads lead rest) :
    (marker.places (lead ++ marker.text ++ rest)).find?
        (fun place => !Text.isEscapedAt (lead ++ marker.text ++ rest) place) =
      some lead.length := by
  obtain ⟨hsilent, ⟨later, hfound⟩, hlive⟩ := h
  have hnone : (marker.places lead).find?
      (fun place => !Text.isEscapedAt (lead ++ marker.text ++ rest) place) = none := by
    rw [List.find?_eq_none]
    intro place hplace
    rw [List.append_assoc, Text.isEscapedAt_append_left (le_length_of_mem_places hplace),
      hsilent place hplace]
    simp
  have hlast : [lead.length].find?
      (fun place => !Text.isEscapedAt (lead ++ marker.text ++ rest) place) = some lead.length := by
    rw [List.find?_singleton, hlive]
    rfl
  rw [← hfound, List.find?_append, List.find?_append, hnone, hlast]
  rfl

/-- There is one way only for a text to lead to a marker. -/
theorem Leads.unique {lead rest lead' rest' : Text} (h : marker.Leads lead rest)
    (h' : marker.Leads lead' rest')
    (htext : lead ++ marker.text ++ rest = lead' ++ marker.text ++ rest') :
    lead = lead' ∧ rest = rest' := by
  have hlength : lead.length = lead'.length := by
    have hfind := h.find?_places
    rw [htext, h'.find?_places] at hfind
    exact (Option.some.inj hfind).symm
  rw [List.append_assoc, List.append_assoc] at htext
  obtain ⟨rfl, hrest⟩ := List.append_inj htext hlength
  exact ⟨rfl, List.append_cancel_left hrest⟩

theorem Leads.not_silent {lead rest : Text} (h : marker.Leads lead rest) :
    ¬ marker.Silent (lead ++ marker.text ++ rest) := by
  intro hsilent
  have hescaped := hsilent lead.length (List.mem_of_find?_eq_some h.find?_places)
  rw [h.live] at hescaped
  exact Bool.false_ne_true hescaped

theorem Leads.cutLive? (hmarker : marker.endsInEscape = false) {lead rest : Text}
    (h : marker.Leads lead rest) :
    marker.cutLive? false false (lead ++ marker.text ++ rest) = some (lead, rest) := by
  cases hcut : marker.cutLive? false false (lead ++ marker.text ++ rest) with
  | none => exact absurd ((cutLive?_eq_none_iff hmarker).1 hcut) h.not_silent
  | some cut =>
    obtain ⟨lead', rest'⟩ := cut
    obtain ⟨rfl, rfl⟩ := h.unique (leads_of_cutLive? hmarker hcut) (cutLive?_eq_some hcut)
    rfl

theorem cut?_escaped_eq_none {text : Text} (h : Text.cut? marker.text text = none) :
    Text.cut? marker.escaped.text text = none := by
  rw [Text.cut?_eq_none_iff] at h ⊢
  exact fun hescaped => h ((List.suffix_cons _ _).isInfix.trans hescaped)

/-- If the first occurrence of the marker has a backslash before it, then the marker with a backslash is
first found there too. -/
theorem cut?_escaped {text before after : Text}
    (h : Text.cut? marker.text text = some (before, after)) (hbefore : before.endsInEscape = true) :
    Text.cut? marker.escaped.text text = some (before.dropLast, after) := by
  obtain ⟨htext, hfirst⟩ := (Text.cut?_eq_some_iff marker.nonempty).1 h
  have hlast : before.getLast? = some Text.escape := by simpa [Text.endsInEscape] using hbefore
  have hsplit : before.dropLast ++ [Text.escape] = before :=
    List.dropLast_append_getLast? _ (by simp [hlast])
  have hsame : before.dropLast ++ marker.escaped.text = before ++ marker.text := by
    conv_rhs => rw [← hsplit]
    simp [escaped]
  rw [Text.cut?_eq_some_iff marker.escaped.nonempty, hsame]
  exact ⟨htext, fun hinfix => hfirst ((List.suffix_cons _ _).isInfix.trans hinfix)⟩

/-- A text without a live marker reads as if each marker with a backslash before it were replaced by the
marker. -/
theorem unescape_eq_replaceAll {text : Text} (h : marker.cutLive? false false text = none) :
    marker.unescape text = Text.replaceAll marker.escaped marker.text text := by
  induction text using Text.cut_induction marker.nonempty with
  | last text hcut =>
    rw [unescape_of_cut?_eq_none hcut, Text.replaceAll_eq, cut?_escaped_eq_none hcut]
  | next text before after hcut ih =>
    obtain ⟨hescaped, hafter⟩ := (cutLive?_eq_none_iff_of_cut? hcut).1 h
    rw [isEscaped_false] at hescaped
    rw [unescape_eq, hcut, Text.replaceAll_eq, cut?_escaped hcut hescaped]
    simp only
    rw [ih hafter]

theorem Silent.unescape (hmarker : marker.endsInEscape = false) {text : Text}
    (h : marker.Silent text) :
    marker.unescape text = Text.replaceAll marker.escaped marker.text text :=
  unescape_eq_replaceAll ((cutLive?_eq_none_iff hmarker).2 h)

end Marker

namespace Markers

variable {markers : Markers}

/-- The segmentation of a text is a decomposition of it. -/
theorem decomposes_segment (hopen : markers.opening.endsInEscape = false)
    (hclose : markers.closing.endsInEscape = false) (text : Text) :
    markers.Decomposes text (markers.segment text) := by
  unfold segment
  induction text using WellFounded.induction (measure List.length).wf with
  | _ text ih =>
    rw [segmentFrom_eq, hopen, hclose]
    cases hlead : markers.opening.cutLive? false false text with
    | none => exact .silent ((Marker.cutLive?_eq_none_iff hopen).1 hlead)
    | some opened =>
      obtain ⟨lead, inner⟩ := opened
      have hleads := Marker.leads_of_cutLive? hopen hlead
      have htext := Marker.cutLive?_eq_some hlead
      simp only
      cases hcontent : markers.closing.cutLive? false false inner with
      | none =>
        rw [htext]
        exact .unclosed hleads ((Marker.cutLive?_eq_none_iff hclose).1 hcontent)
      | some closed =>
        obtain ⟨content, after⟩ := closed
        have hinner := Marker.cutLive?_eq_some hcontent
        have hlt := Nat.lt_trans (Marker.length_lt_of_cutLive? hcontent)
          (Marker.length_lt_of_cutLive? hlead)
        rw [htext, hinner]
        exact .span (hinner ▸ hleads) (Marker.leads_of_cutLive? hclose hcontent) (ih after hlt)

/-- A decomposition of a text is its segmentation. -/
theorem Decomposes.eq_segment (hopen : markers.opening.endsInEscape = false)
    (hclose : markers.closing.endsInEscape = false) {text : Text} {segmentation : Segmentation}
    (h : markers.Decomposes text segmentation) : segmentation = markers.segment text := by
  unfold segment
  induction h with
  | silent hrest =>
    have hnone := (Marker.cutLive?_eq_none_iff hopen).2 hrest
    rw [segmentFrom_of_cutLive?_eq_none (by rwa [hopen])]
  | unclosed hrest htail =>
    have hlead := hrest.cutLive? hopen
    have hnone := (Marker.cutLive?_eq_none_iff hclose).2 htail
    rw [segmentFrom_of_unclosed (by rwa [hopen]) hnone]
  | span hlead hcontent _ ih =>
    have hopened := hlead.cutLive? hopen
    have hclosed := hcontent.cutLive? hclose
    rw [segmentFrom_of_closed (by rwa [hopen]) hclosed, hclose, ← ih]

/-- The stretches of a decomposition read as if each marker with a backslash before it were replaced by
the marker. -/
theorem Decomposes.reading (hopen : markers.opening.endsInEscape = false)
    (hclose : markers.closing.endsInEscape = false) {text : Text} {segmentation : Segmentation}
    (h : markers.Decomposes text segmentation) :
    (∀ span ∈ segmentation.spans,
      markers.opening.unescape span.lead =
        Text.replaceAll markers.opening.escaped markers.opening.text span.lead ∧
      markers.closing.unescape span.content =
        Text.replaceAll markers.closing.escaped markers.closing.text span.content) ∧
    markers.opening.unescape segmentation.rest =
      Text.replaceAll markers.opening.escaped markers.opening.text segmentation.rest := by
  induction h with
  | silent hrest => exact ⟨by simp, hrest.unescape hopen⟩
  | unclosed hrest _ => exact ⟨by simp, hrest.silent.unescape hopen⟩
  | span hlead hcontent _ ih =>
    refine ⟨?_, ih.2⟩
    rintro span hspan
    rcases List.mem_cons.1 hspan with rfl | hspan
    · exact ⟨hlead.silent.unescape hopen, hcontent.silent.unescape hclose⟩
    · exact ih.1 span hspan

/-- For markers that do not end in a backslash every text has exactly one decomposition. A scan asks for
the contents in it and puts the replies between its literal stretches, all of them with the backslashes
before their markers taken away; what follows an opening marker that is never closed stays as it is. -/
theorem fill_eq_of_decomposes (hopen : markers.opening.endsInEscape = false)
    (hclose : markers.closing.endsInEscape = false) (text : Text) :
    (∃! segmentation, markers.Decomposes text segmentation) ∧
    ∀ segmentation, markers.Decomposes text segmentation →
      ∀ (m : Type → Type) [Monad m] [LawfulMonad m] (reply : Text → m Text),
        markers.fill reply text = do
          let replies ← (segmentation.spans.map fun span =>
            Text.replaceAll markers.closing.escaped markers.closing.text span.content).mapM reply
          return Text.weave
            ((segmentation.spans.map fun span =>
              Text.replaceAll markers.opening.escaped markers.opening.text span.lead) ++
              [Text.replaceAll markers.opening.escaped markers.opening.text segmentation.rest ++
                markers.unclosedTail segmentation.unclosed])
            replies := by
  refine ⟨⟨markers.segment text, decomposes_segment hopen hclose text, ?_⟩, ?_⟩
  · intro other hother
    exact hother.eq_segment hopen hclose
  · intro segmentation hsegmentation m _ _ reply
    obtain ⟨hspans, hrest⟩ := hsegmentation.reading hopen hclose
    have hcontents := List.map_congr_left fun span hspan => (hspans span hspan).2
    have hleads := List.map_congr_left fun span hspan => (hspans span hspan).1
    rw [fill_eq_assemble, ← hsegmentation.eq_segment hopen hclose, ← hcontents, ← hleads, ← hrest]
    rfl

def parens : Markers where
  opening := ⟨['(', '('], nofun⟩
  closing := ⟨['('], nofun⟩

/-- One span between an opening marker that is not live and one that is never closed. -/
theorem fill_eq_of_decomposes_parens :
    parens.opening.endsInEscape = false ∧ parens.closing.endsInEscape = false ∧
    ∃ segmentation, parens.Decomposes "\\((x((y\\(z(((w".toList segmentation ∧
      segmentation = ⟨[⟨"\\((x".toList, "y\\(z".toList⟩], [], some ['w']⟩ ∧
      Id.run (parens.fill (fun content => pure ('<' :: content ++ ['>'])) "\\((x((y\\(z(((w".toList) =
        "((x<y(z>((w".toList := by
  have hopen : parens.opening.endsInEscape = false := by decide
  have hclose : parens.closing.endsInEscape = false := by decide
  obtain ⟨⟨segmentation, hdecomposes, -⟩, hfill⟩ :=
    fill_eq_of_decomposes hopen hclose "\\((x((y\\(z(((w".toList
  have hsegmentation : segmentation = ⟨[⟨"\\((x".toList, "y\\(z".toList⟩], [], some ['w']⟩ := by
    rw [hdecomposes.eq_segment hopen hclose]
    decide +kernel
  refine ⟨hopen, hclose, segmentation, hdecomposes, hsegmentation, ?_⟩
  rw [hfill segmentation hdecomposes Id, hsegmentation]
  decide +kernel

end Markers

end Stencil
