import Stencil.Mapping
import Stencil.Number.Shortest
import Stencil.Str

/-!
The values that a file of variables can hold, which are those of a JSON document, and the text that each
of them puts in the place of a span. A text stands for itself. Inside a list or an object it stands in
quotes, as the display of these is meant for a reader who has to see where one item ends and the next
begins.

A string that is torn has no text to put there. What is put is a text with NUL for each half. No path with a
NUL leads anywhere, and neither does one with a half; but a NUL can be written, which a half cannot, and that a
half is left in a text has to be found out in another way (`Value.doubled`).
-/

namespace Stencil

/-- A JSON value. Whole numbers are kept apart from those that are written with a point or a power of
ten, and an object keeps its members in order. -/
inductive Value
  | null
  | bool (value : Bool)
  | int (value : Int)
  | float (value : Binary64)
  | text (value : Text)
  | torn (points : List Nat)
  | list (items : List Value)
  | object (members : List (Str × Value))
  deriving Repr

abbrev Variables := Mapping Value

namespace Value

def ofStr : Str → Value
  | .text value => .text value
  | .torn points => .torn points

/-- The members of an object that a text can ask for. -/
def named (members : List (Str × Value)) : Variables :=
  members.filterMap fun (name, value) => name.text?.map fun name => (name, value)

def displayInt (n : Int) : Text :=
  (if n < 0 then ['-'] else []) ++ Nat.toDigits 10 n.natAbs

def comma : Text := [',', ' ']

mutual

/-- A value as it is shown inside a list or an object. -/
def shown : Value → Text
  | .null => "None".toList
  | .bool value => if value then "True".toList else "False".toList
  | .int value => displayInt value
  | .float value => value.display
  | .text value => value.quoted
  | .torn points => Str.quoted (.torn points)
  | .list items => '[' :: ((shownItems items) ++ [']'])
  | .object members => '{' :: ((shownMembers members) ++ ['}'])

def shownItems : List Value → Text
  | [] => []
  | [item] => shown item
  | item :: items => shown item ++ comma ++ shownItems items

def shownMembers : List (Str × Value) → Text
  | [] => []
  | [(name, value)] => name.quoted ++ [':', ' '] ++ shown value
  | (name, value) :: members => name.quoted ++ [':', ' '] ++ shown value ++ comma ++ shownMembers members

end

/-- What stands in a text for half of a pair. -/
def standIn : Text := ['\x00']

/-- The text that a value puts in the place of a span. -/
def display : Value → Text
  | .text value => value
  | .torn points => Str.fillHalves standIn points
  | value => value.shown

/-- The value as a string: the text that it puts in the place of a span, unless it is torn. -/
def asString : Value → Value
  | .torn points => .torn points
  | value => .text value.display

/-- The value with two stand-ins for each half. Where the text of a run is another with it, a half is left in
that text. -/
def doubled : Value → Value
  | .torn points => .text (Str.fillHalves (standIn ++ standIn) points)
  | value => value

@[simp] theorem display_text (value : Text) : display (.text value) = value := rfl

end Value

end Stencil
