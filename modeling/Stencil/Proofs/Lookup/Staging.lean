import Stencil.Proofs.Lookup.Pass
import Stencil.Proofs.Mapping.Entries

/-!
Substitution in stages. A first pass puts in some variables and leaves the spans of the others as they are; a
second pass puts in more of them. The second pass scans a text that the first one has rewritten, so it has to
be seen that it finds there the spans that were left, with the same contents, and no others.

It does if what the first pass puts in is foreign to the markers: it is not empty, shares no character with
them and holds no backslash. Then no occurrence of a marker reaches into it from either side, and it takes
away the meaning of no marker behind it. An empty value would not do, because the literal texts on either side
of it could then make up a marker between them.
-/

namespace Stencil

namespace Markers

/-- The text is not empty, shares no character with the markers and holds no backslash. -/
structure Foreign (markers : Markers) (text : Text) : Prop where
  nonempty : text ≠ []
  noEscape : Text.escape ∉ text
  apart : ∀ marker ∈ markers.both, ∀ c ∈ text, c ∉ marker.text

instance (markers : Markers) (text : Text) : Decidable (markers.Foreign text) :=
  decidable_of_iff
    (text ≠ [] ∧ Text.escape ∉ text ∧
      (markers.both.all fun marker => text.all fun c => c ∉ marker.text) = true)
    ⟨fun h => ⟨h.1, h.2.1, by simpa using h.2.2⟩, fun h => ⟨h.nonempty, h.noEscape, by simpa using h.apart⟩⟩

variable {markers : Markers} {lead value text : Text}

namespace Foreign

theorem infix_or_infix (hvalue : markers.Foreign value) {marker : Marker} (hmarker : marker ∈ markers.both)
    {front back : Text} (h : marker.text <:+: front ++ (value ++ back)) :
    marker.text <:+: front ∨ marker.text <:+: back :=
  Text.infix_or_infix_of_apart hvalue.nonempty (hvalue.apart marker hmarker) h

/-- No marker is found in what stands before a foreign text and in that text itself, so the search comes out
where it does in the text behind. -/
theorem cut?_append (hvalue : markers.Foreign value) {marker : Marker} (hmarker : marker ∈ markers.both)
    (hlead : ¬ marker.text <:+: lead) (text : Text) :
    Text.cut? marker.text (lead ++ (value ++ text)) =
      (Text.cut? marker.text text).map fun (before, after) => (lead ++ (value ++ before), after) := by
  have hpassed : ∀ back, marker.text <:+: lead ++ value ++ back → marker.text <:+: back := by
    intro back hoccurs
    rw [List.append_assoc] at hoccurs
    exact (hvalue.infix_or_infix hmarker hoccurs).resolve_left hlead
  rw [← List.append_assoc, Text.cut?_append_of_passed marker.nonempty hpassed]
  simp only [List.append_assoc]

/-- What stands before a foreign text and that text itself are left as they are, and the text behind is
filled as a text of its own. -/
theorem filled_append (hvalue : markers.Foreign value) (hlead : ¬ markers.opening.text <:+: lead)
    (h : markers.Unescaped (lead ++ (value ++ text))) (reply : Text → Text) :
    markers.filled reply (lead ++ (value ++ text)) = lead ++ (value ++ markers.filled reply text) := by
  have htext : markers.Unescaped text := h.of_infix ⟨lead ++ value, [], by simp⟩
  have hopen := hvalue.cut?_append markers.opening_mem_both hlead text
  cases hcut : Text.cut? markers.opening.text text with
  | none =>
    rw [hcut, Option.map_none] at hopen
    rw [filled_of_cut?_eq_none reply hopen, filled_of_cut?_eq_none reply hcut]
  | some cut =>
    obtain ⟨before, inner⟩ := cut
    rw [hcut, Option.map_some] at hopen
    cases hclose : Text.cut? markers.closing.text inner with
    | none => rw [filled_of_unclosed reply h hopen hclose, filled_of_unclosed reply htext hcut hclose]
    | some closed =>
      obtain ⟨content, after⟩ := closed
      rw [filled_of_closed reply h hopen hclose, filled_of_closed reply htext hcut hclose]
      simp

theorem unescaped_append (hvalue : markers.Foreign value) (hlead : markers.Unescaped lead)
    (htext : markers.Unescaped text) : markers.Unescaped (lead ++ (value ++ text)) := by
  intro marker hmarker h
  have hapart : ∀ c ∈ value, c ∉ Text.escape :: marker.text := by
    intro c hc hmem
    rcases List.mem_cons.1 hmem with rfl | hmem
    · exact hvalue.noEscape hc
    · exact hvalue.apart marker hmarker c hc hmem
  rcases Text.infix_or_infix_of_apart hvalue.nonempty hapart h with hin | hin
  · exact hlead marker hmarker hin
  · exact htext marker hmarker hin

end Foreign

variable {first second both : Text → Text}

/-- A pass that puts in foreign texts and leaves the other spans brings no backslash before a marker. The
text in front grows by every span that is left, up to the next foreign text. -/
theorem unescaped_filled (hfirst : ∀ content, markers.Foreign (first content) ∨
      first content = markers.wrapped content)
    (front : Text) (h : markers.Unescaped (front ++ text)) :
    markers.Unescaped (front ++ markers.filled first text) := by
  have htext : markers.Unescaped text := h.of_infix (List.suffix_append front text).isInfix
  induction text, htext using Unescaped.span_induction generalizing front with
  | bare text htext hopen => rwa [filled_of_cut?_eq_none first hopen]
  | unclosed text htext lead inner hopen hclose => rwa [filled_of_unclosed first htext hopen hclose]
  | closed text htext lead inner content after hopen hclose ih =>
    have hwhole : front ++ text = front ++ lead ++ markers.wrapped content ++ after := by
      rw [Text.cut?_eq_some hopen, Text.cut?_eq_some hclose]
      simp [wrapped]
    rw [hwhole] at h
    rw [filled_of_closed first htext hopen hclose]
    rcases hfirst content with hforeign | hleft
    · have hlead : markers.Unescaped (front ++ lead) :=
        h.of_infix ⟨[], markers.wrapped content ++ after, by simp⟩
      have hafter := ih [] (h.of_infix (List.suffix_append _ _).isInfix)
      simpa using hforeign.unescaped_append hlead hafter
    · have hgrown := ih (front ++ lead ++ markers.wrapped content) h
      rw [hleft]
      simpa using hgrown

/-- Two passes are as good as one, if the first puts in foreign texts or leaves a span for the second. -/
theorem filled_filled (hreplies : ∀ content,
      markers.Foreign (first content) ∧ both content = first content ∨
        first content = markers.wrapped content ∧ both content = second content)
    (h : markers.Unescaped text) :
    markers.filled second (markers.filled first text) = markers.filled both text := by
  have hfirst : ∀ content, markers.Foreign (first content) ∨ first content = markers.wrapped content :=
    fun content => (hreplies content).imp And.left And.left
  induction text, h using Unescaped.span_induction with
  | bare text _ hopen =>
    rw [filled_of_cut?_eq_none first hopen, filled_of_cut?_eq_none second hopen,
      filled_of_cut?_eq_none both hopen]
  | unclosed text h lead inner hopen hclose =>
    rw [filled_of_unclosed first h hopen hclose, filled_of_unclosed second h hopen hclose,
      filled_of_unclosed both h hopen hclose]
  | closed text h lead inner content after hopen hclose ih =>
    have hrewritten := unescaped_filled hfirst [] h
    rw [filled_of_closed first h hopen hclose, List.append_assoc] at hrewritten ⊢
    rw [filled_of_closed both h hopen hclose]
    rcases hreplies content with ⟨hforeign, hsame⟩ | ⟨hleft, hsame⟩
    · have hlead := Text.not_infix_of_cut? markers.opening.nonempty hopen
      rw [hforeign.filled_append hlead hrewritten, ih, hsame, List.append_assoc]
    · -- The span is found again, since a cut stays where it is when the text behind it is exchanged.
      have hopen' := Text.cut?_exchange markers.opening.nonempty hopen
        (content ++ markers.closing.text ++ markers.filled first after)
      have hclose' := Text.cut?_exchange markers.closing.nonempty hclose (markers.filled first after)
      have hspan : lead ++ (first content ++ markers.filled first after) =
          lead ++ markers.opening.text ++
            (content ++ markers.closing.text ++ markers.filled first after) := by
        simp [hleft, wrapped]
      rw [List.nil_append, hspan] at hrewritten
      rw [hspan, filled_of_closed second hrewritten hopen' hclose', ih, hsame]

/-! ### Passes with variables -/

section

variable {ε : Type}

/-- A pass that puts in variables and no defaults, and leaves the spans that name no variable. -/
def substitute (markers : Markers) (separator : Text) (vars : Variables) (text : Text) : Noted ε Text :=
  markers.fill (markers.lookup (some vars) false separator).noted text

theorem outcome_substitute (markers : Markers) (separator : Text) (vars : Variables) (text : Text) :
    (markers.substitute separator vars text : Noted ε Text).outcome.1 =
      .ok (markers.filled (markers.lookup (some vars) false separator).reply text) := by
  rw [Noted.outcome, substitute, fill_noted]

theorem outcome_substitute_bind (markers : Markers) (separator : Text) (vars more : Variables)
    (text : Text) :
    (markers.substitute separator vars text >>= markers.substitute separator more :
        Noted ε Text).outcome.1 =
      .ok (markers.filled (markers.lookup (some more) false separator).reply
        (markers.filled (markers.lookup (some vars) false separator).reply text)) := by
  rw [Noted.outcome, substitute, run_bind_of_ok (markers.fill_noted _ text []), substitute, fill_noted]

end

theorem filled_filled_lookup (separator : Text) (htext : markers.Unescaped text) {vars : Variables}
    (hvars : ∀ entry ∈ vars, markers.Foreign entry.2.display) (more : Variables) :
    markers.filled (markers.lookup (some more) false separator).reply
        (markers.filled (markers.lookup (some vars) false separator).reply text) =
      markers.filled (markers.lookup (some (vars.union more)) false separator).reply text := by
  refine filled_filled (fun content => ?_) htext
  rw [reply_lookup, reply_lookup, reply_lookup, Mapping.get?_union]
  cases hget : vars.get? content with
  | none => exact .inr ⟨rfl, rfl⟩
  | some value => exact .inl ⟨hvars _ (Mapping.mem_of_get? hget), rfl⟩

/-- In a text with no backslash before a marker, substitution in two stages is substitution with the union
of the variables, those of the first stage going before, if these are foreign to the markers. If the others
are so too and no name is in both, then it does not matter which stage comes first. -/
theorem substitute_staged {ε : Type} (separator : Text) (htext : markers.Unescaped text)
    {vars : Variables} (hvars : ∀ entry ∈ vars, markers.Foreign entry.2.display) (more : Variables) :
    (∃ result,
      (markers.substitute separator vars text >>= markers.substitute separator more :
        Noted ε Text).outcome.1 = .ok result ∧
      (markers.substitute separator (vars.union more) text : Noted ε Text).outcome.1 = .ok result) ∧
    ((∀ entry ∈ more, markers.Foreign entry.2.display) →
      (∀ key, vars.has key = true → more.has key = false) →
      ∃ result,
        (markers.substitute separator vars text >>= markers.substitute separator more :
          Noted ε Text).outcome.1 = .ok result ∧
        (markers.substitute separator more text >>= markers.substitute separator vars :
          Noted ε Text).outcome.1 = .ok result) := by
  have hstaged := filled_filled_lookup separator htext hvars more
  refine ⟨⟨_, outcome_substitute_bind markers separator vars more text, ?_⟩, fun hmore hdisjoint => ?_⟩
  · rw [outcome_substitute, hstaged]
  · have hswapped := filled_filled_lookup separator htext hmore vars
    have hunion : (markers.lookup (some (more.union vars)) false separator).reply =
        (markers.lookup (some (vars.union more)) false separator).reply := by
      funext content
      rw [reply_lookup, reply_lookup, Mapping.get?_union_comm hdisjoint]
    refine ⟨_, outcome_substitute_bind markers separator vars more text, ?_⟩
    rw [outcome_substitute_bind, hswapped, hunion, hstaged]

def percent : Markers where
  opening := ⟨['%'], nofun⟩
  closing := ⟨['%'], nofun⟩

def someNumber : Variables := [("a".toList, .int (-12))]

def someTruth : Variables := [("c".toList, .bool true)]

/-- One span for each stage, one that no stage answers and one that is never closed. -/
theorem substitute_staged_percent :
    percent.Unescaped "%a%\\b%c%-%x%%d".toList ∧
    (∀ entry ∈ someNumber, percent.Foreign entry.2.display) ∧
    (∀ entry ∈ someTruth, percent.Foreign entry.2.display) ∧
    (∀ key, someNumber.has key = true → someTruth.has key = false) ∧
    (percent.substitute [] (someNumber.union someTruth) "%a%\\b%c%-%x%%d".toList :
      Noted Empty Text).outcome.1 = .ok "-12\\bTrue-%x%%d".toList ∧
    (percent.substitute [] someNumber "%a%\\b%c%-%x%%d".toList >>= percent.substitute [] someTruth :
      Noted Empty Text).outcome.1 = .ok "-12\\bTrue-%x%%d".toList ∧
    (percent.substitute [] someTruth "%a%\\b%c%-%x%%d".toList >>= percent.substitute [] someNumber :
      Noted Empty Text).outcome.1 = .ok "-12\\bTrue-%x%%d".toList := by
  have htext : percent.Unescaped "%a%\\b%c%-%x%%d".toList := by decide +kernel
  have hnumber : ∀ entry ∈ someNumber, percent.Foreign entry.2.display := by decide +kernel
  have htruth : ∀ entry ∈ someTruth, percent.Foreign entry.2.display := by decide +kernel
  have hdisjoint : ∀ key, someNumber.has key = true → someTruth.has key = false := by
    intro key hkey
    have hname : "a".toList = key := by simpa [Mapping.has, Mapping.get?, someNumber] using hkey
    rw [← hname]
    decide
  have hunion : (percent.substitute [] (someNumber.union someTruth) "%a%\\b%c%-%x%%d".toList :
      Noted Empty Text).outcome.1 = .ok "-12\\bTrue-%x%%d".toList := by
    rw [outcome_substitute]
    exact congrArg Except.ok (by decide +kernel)
  obtain ⟨⟨result, hstaged, hresult⟩, hswapped⟩ :=
    substitute_staged (ε := Empty) [] htext hnumber someTruth
  obtain ⟨result', hstaged', hlast⟩ := hswapped htruth hdisjoint
  rw [hstaged] at hstaged'
  rw [hunion] at hresult
  rw [← hstaged', ← hresult] at hlast
  rw [← hresult] at hstaged
  exact ⟨htext, hnumber, htruth, hdisjoint, hunion, hstaged, hlast⟩

end Markers

end Stencil
