import Mathlib.Logic.Relation
import Stencil.Proofs.Scan.Extending

/-!
The scan as a machine. There are two loops: the outer one looks for the next opening marker, the inner one for
the end of the span that has been opened. A round of either reads the text at places that are worked out by
adding and subtracting, and a place may come out where it should not. Below zero it would be counted from the
end of the text, behind the end it would be cut down to the end, and the scan would go on with the wrong
characters and no complaint.

So the rounds are stated over a reading of the text (`Reading`), which is free to do at such places what it
likes. One reading counts from the end, another refuses. The scan does the same under all readings that agree
inside the text (`rounds_eq_fill`), the one that refuses included, so it never reads at such a place; and it is
over after as many rounds as the text has characters, and two.

That each round gets on is `Follows.advances`. The cursor may stay where it is in one case only: a span is open
at the very end of the text and no round of the inner loop is left for it.
-/

namespace Stencil

/-- Ways to read a text at places that may lie outside it. A reading may refuse. -/
structure Reading where
  /-- The first occurrence of a part from a place on, if there is one. -/
  find (part : Text) (place : Int) : Option (Option Nat)
  /-- The character at a place. -/
  letter (place : Int) : Option Char
  /-- The characters from one place up to another. -/
  piece (start stop : Int) : Option Text

namespace Text

/-- The place that a bound stands for: a bound below zero counts from the end, and one that is still
outside stands for the end that it is beyond. -/
def bound (size : Nat) (place : Int) : Nat :=
  min (if place < 0 then place + size else place).toNat size

theorem bound_of_le {size place : Nat} (h : place ≤ size) : bound size place = place := by
  have hsign : ¬ (place : Int) < 0 := by omega
  rw [bound, if_neg hsign, Int.toNat_natCast, Nat.min_eq_left h]

/-- Places below zero count from the end. Bounds are moved into the text, and only a single character can be
refused. -/
def fromEnd (text : Text) : Reading where
  find part place :=
    if (text.length : Int) < place then some none else some (Text.find? part text (bound text.length place))
  letter place :=
    let place := if place < 0 then place + text.length else place
    if place < 0 then none else text[place.toNat]?
  piece start stop := some (text.slice (bound text.length start) (bound text.length stop))

/-- Whatever is not inside the text is refused. A bound may stand at the end of the text, a character not. -/
def strict (text : Text) : Reading where
  find part place :=
    if 0 ≤ place ∧ place ≤ text.length then some (Text.find? part text place.toNat) else none
  letter place := if 0 ≤ place then text[place.toNat]? else none
  piece start stop :=
    if (0 ≤ start ∧ start ≤ text.length) ∧ 0 ≤ stop ∧ stop ≤ text.length then
      some (text.slice start.toNat stop.toNat)
    else none

theorem pos_of_isEscapedAt {text : Text} {place : Nat} (h : text.isEscapedAt place = true) : 0 < place := by
  simp only [isEscapedAt, Bool.and_eq_true, decide_eq_true_eq] at h
  exact h.1

end Text

namespace Reading

/-- A reading that is right about whatever is inside the text. -/
structure Agrees (read : Reading) (text : Text) : Prop where
  find {part : Text} {place : Nat} (h : place ≤ text.length) :
    read.find part place = some (Text.find? part text place)
  letter {place : Nat} (h : place < text.length) : read.letter place = some text[place]
  piece {start stop : Nat} (hstart : start ≤ text.length) (hstop : stop ≤ text.length) :
    read.piece start stop = some (text.slice start stop)

theorem agrees_fromEnd (text : Text) : text.fromEnd.Agrees text where
  find h := by
    have hinside : ¬ (text.length : Int) < (_ : Nat) := Int.not_lt.2 (Int.ofNat_le.2 h)
    simp only [Text.fromEnd, if_neg hinside, Text.bound_of_le h]
  letter := by
    intro place h
    have hsign : ¬ (place : Int) < 0 := by omega
    simp only [Text.fromEnd, if_neg hsign, Int.toNat_natCast, List.getElem?_eq_getElem h]
  piece hstart hstop := by
    simp only [Text.fromEnd, Text.bound_of_le hstart, Text.bound_of_le hstop]

theorem agrees_strict (text : Text) : text.strict.Agrees text where
  find h := by
    simp [Text.strict, h]
  letter h := by
    simp [Text.strict, h]
  piece hstart hstop := by
    simp [Text.strict, hstart, hstop]

/-- Whether the character before a place is a backslash. It is looked at only if it stands behind the
cursor. -/
def escaped (read : Reading) (cursor place : Nat) : Option Bool :=
  if cursor < place then (read.letter ((place : Int) - 1)).map (· == Text.escape) else some false

theorem Agrees.piece_pred {read : Reading} {text : Text} (h : read.Agrees text) {cursor place : Nat}
    (hcursor : cursor ≤ text.length) (hpos : 0 < place) (hplace : place ≤ text.length) :
    read.piece cursor ((place : Int) - 1) = some (text.slice cursor (place - 1)) := by
  have hcast : (place : Int) - 1 = (place - 1 : Nat) := by omega
  rw [hcast, h.piece hcursor (by omega)]

theorem Agrees.piece_rest {read : Reading} {text : Text} (h : read.Agrees text) {start : Nat}
    (hstart : start ≤ text.length) : read.piece start text.length = some (text.drop start) := by
  rw [h.piece hstart (Nat.le_refl _), Text.slice, ← List.length_drop, List.take_length]

theorem Agrees.escaped_eq {read : Reading} {text : Text} (h : read.Agrees text) {cursor place : Nat}
    (hplace : place ≤ text.length) :
    read.escaped cursor place = some (decide (cursor < place) && text.isEscapedAt place) := by
  by_cases hbehind : cursor < place
  · have hbefore : place - 1 < text.length := by omega
    have hcast : (place : Int) - 1 = (place - 1 : Nat) := by omega
    have hpos : 0 < place := by omega
    rw [escaped, if_pos hbehind, hcast, h.letter hbefore]
    simp [Text.isEscapedAt, hbehind, hpos, hbefore]
  · simp [escaped, hbehind]

end Reading

/-- An occurrence of a marker lies between the cursor and the end of the text, and takes up some of it. -/
theorem Marker.find?_bounds {marker : Marker} {text : Text} {cursor place : Nat}
    (h : Text.find? marker.text text cursor = some place) :
    cursor ≤ place ∧ place < place + marker.length ∧ place + marker.length ≤ text.length := by
  have hbounds := Text.find?_bounds marker.nonempty h
  have hpos := marker.length_pos
  exact ⟨hbounds.1, Nat.lt_add_of_pos_right hpos, hbounds.2⟩

/-! ### The two loops -/

/-- What the scan knows between two rounds: where the cursor stands and what has been put down. While a span is
open it also knows where the span begins, and what has been read of the content. -/
inductive Position
  | outside (cursor : Nat) (pieces : List Text)
  | inside (start cursor : Nat) (pieces content : List Text)

/-- What a round comes to: the result, a next position, or a content to be answered before there is one. -/
inductive Round
  | done (result : Text)
  | next (position : Position)
  | ask (content : Text) (next : Text → Position)

namespace Markers

/-- One round of the loop that the scan is in. -/
def round (markers : Markers) (text : Text) (read : Reading) : Position → Option Round
  | .outside cursor pieces => do
    match ← read.find markers.opening.text cursor with
    | none =>
      if cursor < text.length then
        let tail ← read.piece cursor text.length
        return .done (pieces ++ [tail]).flatten
      else
        return .done pieces.flatten
    | some start =>
      if ← read.escaped 0 start then
        let before ← read.piece cursor ((start : Int) - 1)
        return .next (.outside (start + markers.opening.length) (pieces ++ [before, markers.opening.text]))
      else
        let before ← read.piece cursor start
        return .next (.inside start (start + markers.opening.length) (pieces ++ [before]) [])
  | .inside start cursor pieces content => do
    match ← read.find markers.closing.text cursor with
    | none =>
      let tail ← read.piece start text.length
      return .next (.outside text.length (pieces ++ [tail]))
    | some stop =>
      if ← read.escaped cursor stop then
        let before ← read.piece cursor ((stop : Int) - 1)
        return .next (.inside start (stop + markers.closing.length) pieces
          (content ++ [before, markers.closing.text]))
      else
        let before ← read.piece cursor stop
        return .ask (content ++ [before]).flatten fun answer =>
          .outside (stop + markers.closing.length) (pieces ++ [answer])

/-- At most so many rounds from a position on. Without a result it fails, and likewise where the reading refuses. -/
def rounds {m : Type → Type} [Monad m] (markers : Markers) (text : Text) (read : Reading)
    (reply : Text → m Text) : Nat → Position → OptionT m Text
  | 0, _ => failure
  | n + 1, position =>
    match markers.round text read position with
    | none => failure
    | some (.done result) => return result
    | some (.next position) => markers.rounds text read reply n position
    | some (.ask content next) => do
      let answer ← OptionT.lift (reply content)
      markers.rounds text read reply n (next answer)

/-! ### What a round does -/

section

variable {markers : Markers} {text : Text} {read : Reading} (h : read.Agrees text) {start cursor : Nat}
  {pieces content : List Text}

include h

theorem round_outside (hcursor : cursor ≤ text.length) :
    markers.round text read (.outside cursor pieces) =
      match Text.find? markers.opening.text text cursor with
      | none => some (.done (pieces ++ [text.drop cursor]).flatten)
      | some start =>
        if text.isEscapedAt start then
          some (.next (.outside (start + markers.opening.length)
            (pieces ++ [text.slice cursor (start - 1), markers.opening.text])))
        else
          some (.next (.inside start (start + markers.opening.length)
            (pieces ++ [text.slice cursor start]) [])) := by
  have hfind : read.find markers.opening.text cursor = _ := h.find hcursor
  cases hfound : Text.find? markers.opening.text text cursor with
  | none =>
    by_cases hmore : cursor < text.length
    · simp [round, hfind, hfound, hmore, h.piece_rest hcursor]
    · have hnothing : text.drop cursor = [] := List.drop_eq_nil_of_le (Nat.not_lt.1 hmore)
      simp [round, hfind, hfound, hmore, hnothing]
  | some start =>
    have hstart : start ≤ text.length := by
      have hbounds := Marker.find?_bounds hfound
      omega
    have htest : read.escaped 0 start = some (text.isEscapedAt start) := by
      rw [h.escaped_eq hstart]
      simp [Text.isEscapedAt]
    cases hescaped : text.isEscapedAt start with
    | false => simp [round, hfind, hfound, htest, hescaped, h.piece hcursor hstart]
    | true =>
      have hpos : 0 < start := Text.pos_of_isEscapedAt hescaped
      simp [round, hfind, hfound, htest, hescaped, h.piece_pred hcursor hpos hstart]

theorem round_inside (hstart : start ≤ text.length) (hcursor : cursor ≤ text.length) :
    markers.round text read (.inside start cursor pieces content) =
      match Text.find? markers.closing.text text cursor with
      | none => some (.next (.outside text.length (pieces ++ [text.drop start])))
      | some stop =>
        if cursor < stop ∧ text.isEscapedAt stop then
          some (.next (.inside start (stop + markers.closing.length) pieces
            (content ++ [text.slice cursor (stop - 1), markers.closing.text])))
        else
          some (.ask (content ++ [text.slice cursor stop]).flatten fun answer =>
            .outside (stop + markers.closing.length) (pieces ++ [answer])) := by
  have hfind : read.find markers.closing.text cursor = _ := h.find hcursor
  cases hfound : Text.find? markers.closing.text text cursor with
  | none => simp [round, hfind, hfound, h.piece_rest hstart]
  | some stop =>
    have hstop : stop ≤ text.length := by
      have hbounds := Marker.find?_bounds hfound
      omega
    by_cases hescaped : cursor < stop ∧ text.isEscapedAt stop
    · have htest : read.escaped cursor stop = some true := by
        rw [h.escaped_eq hstop]
        simp [hescaped]
      have hpos : 0 < stop := by omega
      simp [round, hfind, hfound, htest, hescaped, h.piece_pred hcursor hpos hstop]
    · have htest : read.escaped cursor stop = some false := by
        rw [h.escaped_eq hstop]
        simpa using hescaped
      simp [round, hfind, hfound, htest, hescaped, h.piece hcursor hstop]

end

end Markers

/-! ### How the scan gets on -/

namespace Position

def cursor : Position → Nat
  | .outside cursor _ => cursor
  | .inside _ cursor _ _ => cursor

def isInside : Position → Bool
  | .outside .. => false
  | .inside .. => true

def Within (text : Text) : Position → Prop
  | .outside cursor _ => cursor ≤ text.length
  | .inside start cursor _ _ => start ≤ cursor ∧ cursor ≤ text.length

theorem Within.cursor_le {text : Text} {position : Position} (h : position.Within text) :
    position.cursor ≤ text.length := by
  cases position with
  | outside cursor pieces => exact h
  | inside start cursor pieces content => exact h.2

/-- More rounds than that there are not. -/
def left (text : Text) : Position → Nat
  | .outside cursor _ => if cursor < text.length then text.length - cursor + 2 else 1
  | .inside _ cursor _ _ => text.length - cursor + 2

theorem left_pos (text : Text) (position : Position) : 0 < position.left text := by
  cases position with
  | outside cursor pieces =>
    rw [left]
    split <;> omega
  | inside start cursor pieces content => exact Nat.succ_pos _

theorem left_le (text : Text) (position : Position) :
    position.left text ≤ text.length - position.cursor + 2 := by
  cases position with
  | outside cursor pieces =>
    rw [left]
    split <;> simp only [Position.cursor] <;> omega
  | inside start cursor pieces content => exact Nat.le_refl _

theorem left_eq_of_lt {text : Text} {position : Position} (h : position.cursor < text.length) :
    position.left text = text.length - position.cursor + 2 := by
  cases position with
  | outside cursor pieces => exact if_pos h
  | inside start cursor pieces content => rfl

end Position

/-- The positions that a round may lead to, one for each answer if it asks for one. -/
inductive Round.LeadsTo : Round → Position → Prop
  | next (position : Position) : LeadsTo (.next position) position
  | answered (content answer : Text) (next : Text → Position) : LeadsTo (.ask content next) (next answer)

namespace Markers

/-- The search for the end of the open span comes back empty, so that no round of the inner loop is left. -/
def IsUnclosed (markers : Markers) (text : Text) (position : Position) : Prop :=
  position.isInside = true ∧ Text.find? markers.closing.text text position.cursor = none

/-- Each round takes the cursor forward, and never out of the text. Where an open span has no end the cursor
goes to the end of the text, and may have been there. -/
theorem round_advances {markers : Markers} {text : Text} {read : Reading} (h : read.Agrees text)
    {position next : Position} {round : Round} (hwithin : position.Within text)
    (hround : markers.round text read position = some round) (hleads : round.LeadsTo next) :
    next.Within text ∧
      (position.cursor < next.cursor ∨
        markers.IsUnclosed text position ∧ next.isInside = false ∧ next.cursor = text.length) := by
  cases position with
  | outside cursor pieces =>
    rw [round_outside h hwithin] at hround
    cases hfound : Text.find? markers.opening.text text cursor with
    | none =>
      simp only [hfound, Option.some.injEq] at hround
      subst hround
      cases hleads
    | some start =>
      have hbounds := Marker.find?_bounds hfound
      simp only [hfound] at hround
      split at hround <;> obtain rfl := Option.some.inj hround <;> cases hleads <;>
        simp only [Position.Within, Position.cursor] <;> omega
  | inside start cursor pieces content =>
    obtain ⟨hstart, hcursor⟩ := hwithin
    rw [round_inside h (hstart.trans hcursor) hcursor] at hround
    cases hfound : Text.find? markers.closing.text text cursor with
    | none =>
      simp only [hfound, Option.some.injEq] at hround
      subst hround
      cases hleads
      exact ⟨Nat.le_refl _, .inr ⟨⟨rfl, hfound⟩, rfl, rfl⟩⟩
    | some stop =>
      have hbounds := Marker.find?_bounds hfound
      simp only [hfound] at hround
      split at hround <;> obtain rfl := Option.some.inj hround <;> cases hleads <;>
        simp only [Position.Within, Position.cursor] <;> omega

theorem left_lt_of_round {markers : Markers} {text : Text} {read : Reading} (h : read.Agrees text)
    {position next : Position} {round : Round} (hwithin : position.Within text)
    (hround : markers.round text read position = some round) (hleads : round.LeadsTo next) :
    next.left text < position.left text := by
  obtain ⟨hnext, hforward | ⟨⟨hinside, -⟩, houtside, hend⟩⟩ := round_advances h hwithin hround hleads
  · have hcursor := hnext.cursor_le
    have hless := next.left_le text
    rw [Position.left_eq_of_lt (show position.cursor < text.length by omega)]
    omega
  · -- The span has no end, and at the end of the text one round is left.
    cases position with
    | outside cursor pieces => cases hinside
    | inside start cursor pieces content =>
      cases next with
      | inside => cases houtside
      | outside cursor pieces =>
        obtain rfl : cursor = text.length := hend
        simp [Position.left]

/-! ### The rounds make up the scan -/

section

variable {m : Type → Type} [Monad m] {markers : Markers} {text : Text} {read : Reading}
  (reply : Text → m Text)

/-- What the scan has still to do at a position. -/
def scanAt (markers : Markers) (reply : Text → m Text) (text : Text) : Position → m Text
  | .outside cursor pieces => markers.scanFrom reply text cursor pieces
  | .inside start cursor pieces content =>
    match markers.closing.closeFrom? text cursor content with
    | none => return (pieces ++ [text.drop start]).flatten
    | some (content, stop) =>
      reply content >>= fun answer =>
        markers.scanFrom reply text (stop + markers.closing.length) (pieces ++ [answer])

/-- What is to be done after a round. -/
def scanAfter (markers : Markers) (reply : Text → m Text) (text : Text) : Round → m Text
  | .done result => return result
  | .next position => markers.scanAt reply text position
  | .ask content next => reply content >>= fun answer => markers.scanAt reply text (next answer)

theorem scanFrom_length (pieces : List Text) :
    markers.scanFrom reply text text.length pieces = (return pieces.flatten) := by
  have hnone : Text.find? markers.opening.text text text.length = none := by
    cases hfound : Text.find? markers.opening.text text text.length with
    | none => rfl
    | some start =>
      have hbounds := Marker.find?_bounds hfound
      omega
  rw [scanFrom_eq, hnone]
  simp

/-- A round inside the text is given back by every reading that is right there, and takes the scan one round
further. -/
theorem exists_round (h : read.Agrees text) {position : Position} (hwithin : position.Within text) :
    ∃ round, markers.round text read position = some round ∧
      markers.scanAt reply text position = markers.scanAfter reply text round := by
  cases position with
  | outside cursor pieces =>
    rw [round_outside h hwithin, scanAt, scanFrom_eq]
    cases Text.find? markers.opening.text text cursor with
    | none => exact ⟨_, rfl, rfl⟩
    | some start =>
      by_cases hescaped : text.isEscapedAt start
      · simp only [if_pos hescaped]
        exact ⟨_, rfl, rfl⟩
      · simp only [if_neg hescaped]
        refine ⟨_, rfl, ?_⟩
        rw [scanAfter, scanAt]
        cases markers.closing.closeFrom? text (start + markers.opening.length) [] with
        | none => simp only [List.append_assoc, List.cons_append, List.nil_append]
        | some closed => simp only [List.append_assoc, List.cons_append, List.nil_append]
  | inside start cursor pieces content =>
    obtain ⟨hstart, hcursor⟩ := hwithin
    rw [round_inside h (hstart.trans hcursor) hcursor, scanAt, Marker.closeFrom?_eq]
    cases Text.find? markers.closing.text text cursor with
    | none => exact ⟨_, rfl, (scanFrom_length reply _).symm⟩
    | some stop =>
      by_cases hescaped : cursor < stop ∧ text.isEscapedAt stop
      · simp only [if_pos hescaped]
        exact ⟨_, rfl, rfl⟩
      · simp only [if_neg hescaped]
        exact ⟨_, rfl, rfl⟩

/-- From a position inside the text the rounds do what the scan does, and there are enough of them if there are as
many as can be left. -/
theorem rounds_eq_scanAt [LawfulMonad m] (h : read.Agrees text) {n : Nat} {position : Position}
    (hwithin : position.Within text) (hleft : position.left text ≤ n) :
    markers.rounds text read reply n position = OptionT.lift (markers.scanAt reply text position) := by
  induction n generalizing position with
  | zero =>
    have hpos := position.left_pos text
    omega
  | succ n ih =>
    obtain ⟨round, hround, hscan⟩ : ∃ round, markers.round text read position = some round ∧
        markers.scanAt reply text position = markers.scanAfter reply text round :=
      exists_round reply h hwithin
    have hnext {next : Position} (hleads : round.LeadsTo next) :
        markers.rounds text read reply n next = OptionT.lift (markers.scanAt reply text next) := by
      have hless := left_lt_of_round h hwithin hround hleads
      exact ih (round_advances h hwithin hround hleads).1 (by omega)
    rw [rounds, hround, hscan]
    cases round with
    | done result => exact (OptionT.lift_pure result).symm
    | next next => exact hnext (.next next)
    | ask content next =>
      simp only [scanAfter, hnext (.answered content _ next)]
      exact (OptionT.lift_bind ..).symm

theorem rounds_eq_fill [LawfulMonad m] (h : read.Agrees text) :
    markers.rounds text read reply (text.length + 2) (.outside 0 []) =
      OptionT.lift (markers.fill reply text) := by
  have hwithin : (Position.outside 0 []).Within text := Nat.zero_le _
  exact rounds_eq_scanAt reply h hwithin (Position.left_le text _)

end

/-! ### All that can be reached -/

/-- A round at the first position leads to the second, perhaps by way of an answer. -/
def Follows (markers : Markers) (text : Text) (position next : Position) : Prop :=
  ∃ round, markers.round text text.fromEnd position = some round ∧ round.LeadsTo next

/-- Some answers lead there from the start of the text. -/
def Reaches (markers : Markers) (text : Text) (position : Position) : Prop :=
  Relation.ReflTransGen (markers.Follows text) (.outside 0 []) position

variable {markers : Markers} {text : Text} {position next : Position}

theorem Follows.advances (h : markers.Follows text position next) (hwithin : position.Within text) :
    next.Within text ∧
      (position.cursor < next.cursor ∨
        markers.IsUnclosed text position ∧ next.isInside = false ∧ next.cursor = text.length) := by
  obtain ⟨round, hround, hleads⟩ := h
  exact round_advances (Reading.agrees_fromEnd text) hwithin hround hleads

theorem Reaches.within (h : markers.Reaches text position) : position.Within text := by
  induction h with
  | refl => exact Nat.zero_le _
  | tail _ hstep ih => exact (hstep.advances ih).1

/-- From the head of a loop to a later head of the same loop the cursor has moved forward, whatever lies between
them. -/
theorem cursor_lt_of_transGen (hwithin : position.Within text)
    (h : Relation.TransGen (markers.Follows text) position next) :
    next.Within text ∧ position.cursor ≤ next.cursor ∧
      (position.isInside = next.isInside → position.cursor < next.cursor) := by
  -- A path that begins outside or ends inside gets on in its first or in its last round.
  suffices hpath : next.Within text ∧ position.cursor ≤ next.cursor ∧
      (position.isInside = false ∨ next.isInside = true → position.cursor < next.cursor) by
    obtain ⟨hnext, hle, hlt⟩ := hpath
    refine ⟨hnext, hle, fun hsame => hlt ?_⟩
    cases hinside : position.isInside with
    | false => exact .inl rfl
    | true => exact .inr (hsame ▸ hinside)
  induction h with
  | single hstep =>
    obtain ⟨hnext, hforward | ⟨⟨hinside, -⟩, houtside, hend⟩⟩ := hstep.advances hwithin
    · exact ⟨hnext, hforward.le, fun _ => hforward⟩
    · have hcursor := hwithin.cursor_le
      exact ⟨hnext, by omega, by simp [hinside, houtside]⟩
  | @tail middle next _ hstep ih =>
    obtain ⟨hmiddle, hle, hlt⟩ := ih
    obtain ⟨hnext, hforward | ⟨-, houtside, hend⟩⟩ := hstep.advances hmiddle
    · exact ⟨hnext, by omega, fun _ => by omega⟩
    · have hcursor := hmiddle.cursor_le
      refine ⟨hnext, by omega, fun hends => ?_⟩
      have hbegins : position.isInside = false := by simpa [houtside] using hends
      have := hlt (.inl hbegins)
      omega

end Markers
end Stencil
