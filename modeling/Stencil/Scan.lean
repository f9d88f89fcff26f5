import Stencil.Markers

/-!
The scan of a text. A cursor goes over the text from left to right. What it passes over is put down piece
by piece, and in the place of a span goes what `reply` makes of its content, at the moment the span has
been read. The reply is put down and not looked at: the cursor is a place in the text that is scanned, and
moves behind the closing marker whatever the reply is.

A marker behind a backslash is not live. It loses the backslash and the search goes on behind it. The look
at the neighbour on the left differs between the two markers: before an opening marker it may fall on any
character of the text, before a closing one only on a character of the content that is behind the cursor.
-/

namespace Stencil

namespace Text

/-- The first place where `part` occurs, at the cursor or behind it. -/
def find? (part text : Text) (cursor : Nat) : Option Nat :=
  (cut? part (text.drop cursor)).map fun (before, _) => cursor + before.length

def slice (text : Text) (start stop : Nat) : Text :=
  (text.drop start).take (stop - start)

def isEscapedAt (text : Text) (place : Nat) : Bool :=
  0 < place && text[place - 1]? == some escape

theorem find?_eq_some_iff {part text : Text} {cursor place : Nat} :
    find? part text cursor = some place ↔
      ∃ before after, cut? part (text.drop cursor) = some (before, after) ∧
        place = cursor + before.length := by
  simp only [find?, Option.map_eq_some_iff, Prod.exists, exists_and_right]
  grind

theorem find?_bounds {part text : Text} {cursor place : Nat} (hpart : part ≠ [])
    (h : find? part text cursor = some place) :
    cursor ≤ place ∧ place + part.length ≤ text.length := by
  obtain ⟨before, after, hcut, rfl⟩ := find?_eq_some_iff.1 h
  have hlength := congrArg List.length (cut?_eq_some hcut)
  have hpos := List.length_pos_iff.2 hpart
  simp only [List.length_drop, List.length_append] at hlength
  omega

end Text

namespace Marker

def length (marker : Marker) : Nat :=
  marker.text.length

theorem length_pos (marker : Marker) : 0 < marker.length :=
  List.length_pos_iff.2 marker.nonempty

/-- The content from a cursor up to the first live closing marker, as it reads, and the place of that
marker. The pieces are what has been read of the content before the cursor. -/
def closeFrom? (marker : Marker) (text : Text) (cursor : Nat) (pieces : List Text) :
    Option (Text × Nat) :=
  match _found : Text.find? marker.text text cursor with
  | none => none
  | some stop =>
    -- At the cursor itself the backslash would belong to the marker that has just been read.
    if cursor < stop ∧ text.isEscapedAt stop then
      marker.closeFrom? text (stop + marker.length)
        (pieces ++ [text.slice cursor (stop - 1), marker.text])
    else
      some ((pieces ++ [text.slice cursor stop]).flatten, stop)
  termination_by text.length - cursor
  decreasing_by
    have := Text.find?_bounds marker.nonempty _found
    have := marker.length_pos
    unfold length at *
    omega

theorem closeFrom?_eq (marker : Marker) (text : Text) (cursor : Nat) (pieces : List Text) :
    marker.closeFrom? text cursor pieces =
      match Text.find? marker.text text cursor with
      | none => none
      | some stop =>
        if cursor < stop ∧ text.isEscapedAt stop then
          marker.closeFrom? text (stop + marker.length)
            (pieces ++ [text.slice cursor (stop - 1), marker.text])
        else some ((pieces ++ [text.slice cursor stop]).flatten, stop) := by
  rw [closeFrom?]
  split <;> simp [*]

theorem closeFrom?_bounds {marker : Marker} {text content : Text} {cursor stop : Nat}
    {pieces : List Text} (h : marker.closeFrom? text cursor pieces = some (content, stop)) :
    cursor ≤ stop ∧ stop + marker.length ≤ text.length := by
  fun_induction closeFrom? marker text cursor pieces with
  | case1 => simp at h
  | case2 cursor pieces place hfound _ ih =>
    have hbounds := Text.find?_bounds marker.nonempty hfound
    have := ih h
    omega
  | case3 cursor pieces place hfound =>
    simp only [Option.some.injEq, Prod.mk.injEq] at h
    obtain ⟨-, rfl⟩ := h
    exact Text.find?_bounds marker.nonempty hfound

end Marker

namespace Markers

/-- The scan from a cursor on, behind the pieces that have been put down. -/
def scanFrom {m : Type → Type} [Monad m] (markers : Markers) (reply : Text → m Text) (text : Text)
    (cursor : Nat) (pieces : List Text) : m Text :=
  match _opened : Text.find? markers.opening.text text cursor with
  | none => return (pieces ++ [text.drop cursor]).flatten
  | some start =>
    if text.isEscapedAt start then
      -- The backslash goes and the marker stays.
      markers.scanFrom reply text (start + markers.opening.length)
        (pieces ++ [text.slice cursor (start - 1), markers.opening.text])
    else
      -- A span that is never closed leaves the rest of the text as it is, escaped markers included.
      match _closed : markers.closing.closeFrom? text (start + markers.opening.length) [] with
      | none => return (pieces ++ [text.slice cursor start, text.drop start]).flatten
      | some (content, stop) => do
        let answer ← reply content
        markers.scanFrom reply text (stop + markers.closing.length)
          (pieces ++ [text.slice cursor start, answer])
  termination_by text.length - cursor
  decreasing_by
    all_goals
      have := Text.find?_bounds markers.opening.nonempty _opened
      have := markers.opening.length_pos
    · unfold Marker.length at *
      omega
    · have := Marker.closeFrom?_bounds _closed
      have := markers.closing.length_pos
      omega

/-- The text with each span replaced by what `reply` makes of its content. -/
def fill {m : Type → Type} [Monad m] (markers : Markers) (reply : Text → m Text) (text : Text) : m Text :=
  markers.scanFrom reply text 0 []

theorem scanFrom_eq {m : Type → Type} [Monad m] (markers : Markers) (reply : Text → m Text)
    (text : Text) (cursor : Nat) (pieces : List Text) :
    markers.scanFrom reply text cursor pieces =
      match Text.find? markers.opening.text text cursor with
      | none => return (pieces ++ [text.drop cursor]).flatten
      | some start =>
        if text.isEscapedAt start then
          markers.scanFrom reply text (start + markers.opening.length)
            (pieces ++ [text.slice cursor (start - 1), markers.opening.text])
        else
          match markers.closing.closeFrom? text (start + markers.opening.length) [] with
          | none => return (pieces ++ [text.slice cursor start, text.drop start]).flatten
          | some (content, stop) =>
            reply content >>= fun answer =>
              markers.scanFrom reply text (stop + markers.closing.length)
                (pieces ++ [text.slice cursor start, answer]) := by
  rw [scanFrom]
  split
  · simp [*]
  · simp only [*]
    split
    · rfl
    · split <;> simp [*]

end Markers

end Stencil
