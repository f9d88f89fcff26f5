import Stencil.Proofs.Scan.Decomposition

/-!
Quoting. A template is literal texts and contents in turn, written with the markers between them. To be
told apart from these, an occurrence of a marker in the data is quoted: a backslash is put before it. The
scan of a template reads back the data (`fill_template`).

Two things could go wrong, and each has a condition that excludes it. A backslash of the data before a
marker of the template would take away the meaning of that marker, so a text before a marker must not end
in one. And an occurrence could begin in the data and end in the marker behind it. Its last part would
then be an end and a beginning of the marker at the same time, so the markers must have no such border. A
backslash that is put in is never part of an occurrence, since the markers hold none.
-/

namespace Stencil

namespace Marker

/-- No beginning of the marker is also an end of it, the empty text and the marker itself apart. -/
def IsBorderless (marker : Marker) : Prop :=
  ∀ border, border <+: marker.text → border <:+ marker.text → border = [] ∨ border = marker.text

instance (marker : Marker) : Decidable marker.IsBorderless :=
  decidable_of_iff
    (∀ border ∈ marker.text.inits, border <:+ marker.text → border = [] ∨ border = marker.text)
    (forall_congr' fun border => by rw [List.mem_inits])

/-- The text with a backslash put before each occurrence of the marker, from left to right. -/
def quote (marker : Marker) (text : Text) : Text :=
  Text.replaceAll marker marker.escaped.text text

variable {marker : Marker}

theorem endsInEscape_of_notMem (h : Text.escape ∉ marker.text) : marker.endsInEscape = false := by
  cases hends : marker.endsInEscape with
  | false => rfl
  | true =>
    have hlast : marker.text.getLast? = some Text.escape := by
      simpa [endsInEscape, Text.endsInEscape] using hends
    exact absurd (List.mem_of_getLast? hlast) h

theorem quote_of_cut?_eq_none {text : Text} (h : Text.cut? marker.text text = none) :
    marker.quote text = text := by
  rw [quote, Text.replaceAll_eq, h]

theorem quote_of_cut? {text before after : Text}
    (h : Text.cut? marker.text text = some (before, after)) :
    marker.quote text = before ++ [Text.escape] ++ marker.text ++ marker.quote after := by
  rw [quote, Text.replaceAll_eq, h]
  simp [quote, escaped]

theorem cut?_quoted (hmarker : Text.escape ∉ marker.text) {text before after : Text}
    (h : Text.cut? marker.text text = some (before, after)) (other : Text) :
    Text.cut? marker.text (before ++ [Text.escape] ++ marker.text ++ other) =
      some (before ++ [Text.escape], other) := by
  rw [Text.cut?_eq_some_iff marker.nonempty]
  refine ⟨rfl, fun hinfix => ?_⟩
  rw [List.dropLast_append_of_ne_nil marker.nonempty, List.append_assoc,
    List.singleton_append] at hinfix
  rcases Text.infix_or_infix_of_notMem hmarker hinfix with hbefore | hlast
  · exact Text.not_infix_of_cut? marker.nonempty h hbefore
  · exact Text.not_infix_dropLast marker.nonempty hlast

theorem IsBorderless.cut?_append (hmarker : marker.IsBorderless) {text : Text}
    (h : Text.cut? marker.text text = none) (rest : Text) :
    Text.cut? marker.text (text ++ marker.text ++ rest) = some (text, rest) := by
  rw [Text.cut?_eq_none_iff] at h
  rw [Text.cut?_eq_some_iff marker.nonempty, List.dropLast_append_of_ne_nil marker.nonempty]
  refine ⟨rfl, fun hoccurs => ?_⟩
  rcases List.infix_append_iff.1 hoccurs with hin | hin | ⟨start, stop, hsplit, hends, hbegins⟩
  · exact h hin
  · exact Text.not_infix_dropLast marker.nonempty hin
  · -- What begins in the text and ends in the marker behind it ends with a border of the marker.
    rcases hmarker stop (hbegins.trans (List.dropLast_prefix _)) ⟨start, hsplit.symm⟩ with hnil | hwhole
    · rw [hnil, List.append_nil] at hsplit
      exact h (hsplit ▸ hends.isInfix)
    · exact Text.not_infix_dropLast marker.nonempty (hwhole ▸ hbegins.isInfix)

theorem cutLive?_quote (hmarker : Text.escape ∉ marker.text) (text : Text) :
    marker.cutLive? false false (marker.quote text) = none := by
  induction text using Text.cut_induction marker.nonempty with
  | last text hcut => rw [quote_of_cut?_eq_none hcut, cutLive?_of_cut?_eq_none hcut]
  | next text before after hcut ih =>
    rw [quote_of_cut? hcut, cutLive?_of_escaped (cut?_quoted hmarker hcut _)
      (by rw [isEscaped_false]; simp [Text.endsInEscape]), ih]
    rfl

theorem cutLive?_quote_append (hmarker : Text.escape ∉ marker.text)
    (hborder : marker.IsBorderless) {text : Text} (h : text.endsInEscape = false) (rest : Text) :
    marker.cutLive? false false (marker.quote text ++ marker.text ++ rest) =
      some (marker.quote text, rest) := by
  induction text using Text.cut_induction marker.nonempty with
  | last text hcut =>
    rw [quote_of_cut?_eq_none hcut]
    exact cutLive?_of_live (hborder.cut?_append hcut rest) (by rw [isEscaped_false, h])
  | next text before after hcut ih =>
    have hafter : after.endsInEscape = false := by
      rw [Text.cut?_eq_some hcut, Text.endsInEscape_append] at h
      split at h
      · next hnil => rw [hnil]; rfl
      · exact h
    have hassoc : marker.quote text ++ marker.text ++ rest = before ++ [Text.escape] ++
        marker.text ++ (marker.quote after ++ marker.text ++ rest) := by
      simp [quote_of_cut? hcut]
    rw [hassoc, cutLive?_of_escaped (cut?_quoted hmarker hcut _)
      (by rw [isEscaped_false]; simp [Text.endsInEscape]), ih hafter, Option.map_some,
      quote_of_cut? hcut]

theorem unescape_quote (hmarker : Text.escape ∉ marker.text) (text : Text) :
    marker.unescape (marker.quote text) = text := by
  induction text using Text.cut_induction marker.nonempty with
  | last text hcut => rw [quote_of_cut?_eq_none hcut, unescape_of_cut?_eq_none hcut]
  | next text before after hcut ih =>
    rw [quote_of_cut? hcut, unescape_append (cut?_quoted hmarker hcut []), ih, List.dropLast_concat]
    exact (Text.cut?_eq_some hcut).symm

end Marker

namespace Markers

variable {markers : Markers}

/-- Literal texts and contents in turn and a literal text at the end, as a text to be scanned. -/
def template (markers : Markers) (pieces : List (Text × Text)) (last : Text) : Text :=
  match pieces with
  | [] => markers.opening.quote last
  | (literal, content) :: pieces =>
    markers.opening.quote literal ++ markers.opening.text ++
      (markers.closing.quote content ++ markers.closing.text ++ markers.template pieces last)

theorem segment_template (hopen : Text.escape ∉ markers.opening.text)
    (hclose : Text.escape ∉ markers.closing.text) {pieces : List (Text × Text)} {last : Text}
    (hborder : pieces ≠ [] → markers.opening.IsBorderless ∧ markers.closing.IsBorderless)
    (hends : ∀ piece ∈ pieces, piece.1.endsInEscape = false ∧ piece.2.endsInEscape = false) :
    markers.segment (markers.template pieces last) =
      ⟨pieces.map fun (literal, content) =>
          ⟨markers.opening.quote literal, markers.closing.quote content⟩,
        markers.opening.quote last, none⟩ := by
  have hcarry := Marker.endsInEscape_of_notMem hopen
  have hbehind := Marker.endsInEscape_of_notMem hclose
  unfold segment
  induction pieces with
  | nil =>
    rw [template, segmentFrom_of_cutLive?_eq_none]
    · rfl
    · rw [hcarry, Marker.cutLive?_quote hopen]
  | cons piece pieces ih =>
    obtain ⟨literal, content⟩ := piece
    obtain ⟨hliteral, hcontent⟩ := hends (literal, content) List.mem_cons_self
    obtain ⟨hopenBorder, hcloseBorder⟩ := hborder (List.cons_ne_nil _ _)
    have hopened := Marker.cutLive?_quote_append hopen hopenBorder hliteral
      (markers.closing.quote content ++ markers.closing.text ++ markers.template pieces last)
    have hclosed := Marker.cutLive?_quote_append hclose hcloseBorder hcontent
      (markers.template pieces last)
    rw [template, segmentFrom_of_closed (by rw [hcarry]; exact hopened) hclosed, hbehind,
      ih (fun _ => ⟨hopenBorder, hcloseBorder⟩)
        (fun piece hpiece => hends piece (List.mem_cons_of_mem _ hpiece))]
    rfl

section

variable (hopen : Text.escape ∉ markers.opening.text) (hclose : Text.escape ∉ markers.closing.text)
  {pieces : List (Text × Text)} {last : Text}
  (hborder : pieces ≠ [] → markers.opening.IsBorderless ∧ markers.closing.IsBorderless)
  (hends : ∀ piece ∈ pieces, piece.1.endsInEscape = false ∧ piece.2.endsInEscape = false)

include hopen hclose hborder hends

theorem contents_segment_template :
    markers.contents (markers.segment (markers.template pieces last)) = pieces.map Prod.snd := by
  rw [segment_template hopen hclose hborder hends]
  simp [contents, Function.comp_def, Marker.unescape_quote hclose]

theorem fragments_segment_template :
    markers.fragments (markers.segment (markers.template pieces last)) =
      pieces.map Prod.fst ++ [last] := by
  rw [segment_template hopen hclose hborder hends]
  simp [fragments, leads, ending, unclosedTail, Function.comp_def, Marker.unescape_quote hopen]

end

/-- The scan of a template asks for the contents and puts the replies between the literal texts. Without
contents a template is any quoted text at all, and the markers may then have borders. -/
theorem fill_template (hopen : Text.escape ∉ markers.opening.text)
    (hclose : Text.escape ∉ markers.closing.text) {pieces : List (Text × Text)} (last : Text)
    (hborder : pieces ≠ [] → markers.opening.IsBorderless ∧ markers.closing.IsBorderless)
    (hends : ∀ piece ∈ pieces, piece.1.endsInEscape = false ∧ piece.2.endsInEscape = false)
    {m : Type → Type} [Monad m] [LawfulMonad m] (reply : Text → m Text) :
    markers.fill reply (markers.template pieces last) = do
      let replies ← (pieces.map Prod.snd).mapM reply
      return Text.weave (pieces.map Prod.fst ++ [last]) replies := by
  rw [fill_eq_assemble, contents_segment_template hopen hclose hborder hends]
  simp only [assemble, fragments_segment_template hopen hclose hborder hends]

def percents : Markers where
  opening := ⟨['<', '%'], nofun⟩
  closing := ⟨['%', '>'], nofun⟩

/-- Markers in a literal text and in a content, a content that ends as the marker begins, an empty one,
and a backslash at the very end. -/
theorem fill_template_percents :
    Text.escape ∉ percents.opening.text ∧ Text.escape ∉ percents.closing.text ∧
    percents.opening.IsBorderless ∧ percents.closing.IsBorderless ∧
    percents.template [("a<%".toList, "%>b%".toList), ("".toList, "".toList)] "\\<%\\".toList =
      "a\\<%<%\\%>b%%><%%>\\\\<%\\".toList ∧
    (percents.fill (fun content => modifyGet fun calls => ("[".toList, calls ++ [content]))
      "a\\<%<%\\%>b%%><%%>\\\\<%\\".toList : StateM (List Text) Text).run [] =
      ("a<%[[\\<%\\".toList, ["%>b%".toList, []]) := by
  have htemplate :
      percents.template [("a<%".toList, "%>b%".toList), ("".toList, "".toList)] "\\<%\\".toList =
        "a\\<%<%\\%>b%%><%%>\\\\<%\\".toList := by decide +kernel
  refine ⟨by decide, by decide, by decide, by decide, htemplate, ?_⟩
  rw [← htemplate, fill_template (by decide) (by decide) _ (fun _ => ⟨by decide, by decide⟩) (by decide)]
  rfl

end Markers

end Stencil
