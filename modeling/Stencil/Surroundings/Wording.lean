import Stencil.Surroundings.Columns
import Stencil.Surroundings.Pictogram
import Stencil.Wording

/-!
What the libraries at hand make of a report and of a refusal. Nothing else in the program depends on it.

A report comes out on a terminal. The terminal takes some texts in square brackets for tags. A report
that happens to hold such a text is shown as it is, backslashes before it included. Before any other
opening bracket one backslash is lost, and a single backslash at the end of a report is doubled. The names
of pictograms are replaced, in a tag and between two tags, but not across the border of a tag. What would
move the cursor about is left out, and a tab is shown as the spaces up to the next tab stop.
-/

namespace Stencil.Surroundings

/-! ### Tags -/

def opensTag (c : Char) : Bool :=
  ('a' ≤ c && c ≤ 'z') || c = '#' || c = '/' || c = '@'

/-- The text up to and with the first closing bracket, and the rest, unless an opening bracket comes
first. -/
def tagBody? (seen : Text) : Text → Option (Text × Text)
  | [] => none
  | c :: text =>
    if c = ']' then some ((']' :: seen).reverse, text)
    else if c = '[' then none
    else tagBody? (c :: seen) text

def tag? : Text → Option (Text × Text)
  | '[' :: c :: text => if opensTag c then tagBody? [c, '['] text else none
  | _ => none

theorem length_of_tagBody? {seen text body rest : Text} (h : tagBody? seen text = some (body, rest)) :
    rest.length < text.length := by
  induction text generalizing seen with
  | nil => simp [tagBody?] at h
  | cons c text ih =>
    rw [tagBody?] at h
    split at h
    · simp_all
    · split at h
      · simp at h
      · have := ih h
        simp only [List.length_cons]
        omega

theorem length_of_tag? {text tag rest : Text} (h : tag? text = some (tag, rest)) :
    rest.length < text.length := by
  unfold tag? at h
  split at h
  · split at h
    · have := length_of_tagBody? h
      simp only [List.length_cons]
      omega
    · simp at h
  · simp at h

/-- The stretches of a text: each tag, the backslashes before it, and what stands between. `seen` holds,
last first, what was read since the last tag. -/
def stretchesFrom (seen : Text) (text : Text) : List Text :=
  match text with
  | [] => [seen.reverse]
  | c :: rest =>
    match _h : tag? (c :: rest) with
    | some (tag, rest') =>
      (seen.dropWhile (· = Text.escape)).reverse :: seen.takeWhile (· = Text.escape) :: tag ::
        stretchesFrom [] rest'
    | none => stretchesFrom (c :: seen) rest
termination_by text.length
decreasing_by
  · exact length_of_tag? _h
  · exact Nat.lt_succ_self _

def dropLostEscapes : Text → Text
  | [] => []
  | '\\' :: '[' :: text => '[' :: dropLostEscapes text
  | c :: text => c :: dropLostEscapes text

def doubleLastEscape (text : Text) : Text :=
  match text.reverse with
  | '\\' :: '\\' :: _ => text
  | '\\' :: _ => text ++ ['\\']
  | _ => text

/-! ### Reports -/

def movesCursor (c : Char) : Bool :=
  c = '\x07' || c = '\x08' || c = '\x0b' || c = '\x0c' || c = '\r'

/-- What is shown of a message. -/
def shown (message : Text) : Text :=
  let stretches := stretchesFrom [] (doubleLastEscape message)
  (stretches.flatMap fun stretch => Pictogram.replaceNames (dropLostEscapes stretch)).filter
    fun c => !movesCursor c

def report (start message : String) : String :=
  start ++ String.ofList (expandTabs { column := start.length } (shown message.toList))

/-! ### Refusals

A library that checks what it is given adds to a refusal where more is to be read about it. That differs with the
version of the library, so `reference` gives it for a kind of fault. -/

section

variable (reference : String → String)

def noTextComplaint : String :=
  "Input should be a valid string [type=string_type, input_value=[], input_type=list]" ++
    reference "string_type"

def sideComplaint : SideFault → String
  | .empty =>
    "Value error, Delimiter tokens cannot be empty [type=value_error, input_value='', input_type=str]" ++
      reference "value_error"
  | .noText => noTextComplaint reference

/-- The report on a refused pair: a heading that counts the faults, and the complaint on each side. -/
def sidesReport (faults : List (Side × SideFault)) : String :=
  let heading := match faults.length with
    | 1 => "1 validation error for Delimiters"
    | n => toString n ++ " validation errors for Delimiters"
  heading ++ String.join (faults.map fun (side, fault) =>
    "\n" ++ side.name ++ "\n  " ++ sideComplaint reference fault)

end

end Stencil.Surroundings

namespace Stencil

/-- The words of the libraries that the program is run with. -/
def Wording.standard (reference : String → String) : Wording where
  sides := Surroundings.sidesReport reference
  noText := "1 validation error for InputMode\ntext\n  " ++ Surroundings.noTextComplaint reference
  report := Surroundings.report

end Stencil
