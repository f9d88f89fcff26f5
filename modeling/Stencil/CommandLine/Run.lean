import Stencil.CommandLine.Setup
import Stencil.CommandLine.Usage
import Stencil.Pipeline

/-!
A run of the program. Standard output gets a text only when all has gone well, and then the whole of it;
that is why a run is a function to an `Outcome` and nothing is written on the way.

The settings of the command line go over the others. A marker that is given without a value is refused
before the text is touched, as an empty one is, and a separator that is given without a value comes to
light at the first span that would have to be looked into for it.
-/

namespace Stencil.CommandLine

/-! ### Filling a text -/

inductive FillError
  | run (error : RunError)
  | sides (faults : List (Side × SideFault))
  | noSeparator
  deriving DecidableEq, Repr

def FillError.message (wording : Wording) : FillError → String
  | .run error => error.message wording
  | .sides faults => wording.sides faults
  | .noSeparator => "must be str, not list"

namespace Invocation

/-- The settings with the values of the command line over them. -/
def override (invocation : Invocation) (settings : Settings) : Settings :=
  let valueOr (argument : Option Argument) (default : Text) :=
    (argument.bind Argument.value?).getD default
  { settings with
    enableDefault := invocation.enableDefault || settings.enableDefault
    separator := valueOr invocation.separator settings.separator
    opening := valueOr invocation.opening settings.opening
    closing := valueOr invocation.closing settings.closing }

def sideFaults (invocation : Invocation) (settings : Settings) : List (Side × SideFault) :=
  let faults (side : Side) (argument : Option Argument) (text : Text) :=
    if argument = some .nothing then [(side, SideFault.noText)]
    else if text = [] then [(side, .empty)]
    else []
  faults .opening invocation.opening settings.opening ++ faults .closing invocation.closing settings.closing

def lacksMarker (invocation : Invocation) : Bool :=
  invocation.opening = some .nothing || invocation.closing = some .nothing

/-- Whether a span of a text would have to be looked into for a separator that is given without a value.
Settings that make no plan are found to be at fault before any span is. -/
def lacksSeparator (invocation : Invocation) (world : World) (settings : Settings)
    (vars : Option Variables) (text : Text) : Bool :=
  invocation.separator = some .nothing && settings.enableDefault && vars.isSome &&
    match Plan.ofSettings world settings invocation.withFiles with
    | .ok plan => plan.markers.contents (plan.markers.segment text) ≠ []
    | .error _ => false

/-- A run of a text under settings with the values of the command line over them. -/
def attempt (invocation : Invocation) (world : World) (settings : Settings) (vars : Option Variables)
    (text : Text) : Noted FillError Text :=
  let settings := invocation.override settings
  if invocation.lacksMarker then
    throw (.sides (invocation.sideFaults settings))
  else if invocation.lacksSeparator world settings vars text then
    throw .noSeparator
  else
    (Stencil.attempt world settings invocation.withFiles vars text).adapt .run

/-- Whether a half of a pair is left in the text of a run, which then cannot be written. With another stand-in for
the halves the run leaves another text; a half in a path may be gone again by then, with the `..` behind it. -/
def leavesHalf (invocation : Invocation) (world : World) (settings : Settings) (vars : Option Variables)
    (text result : Text) : Bool :=
  let doubled := vars.map (List.map (Prod.map id Value.doubled))
  (invocation.attempt world settings doubled text).outcome.1.toOption ≠ some result

end Invocation

structure Outcome where
  code : Nat
  output : Text
  errors : String
  deriving DecidableEq, Repr

def Outcome.failed (code : Nat) (errors : String) : Outcome := ⟨code, [], errors⟩

def complaint (wording : Wording) (message : String) : String :=
  wording.report "Error: " message ++ "\n"

def noInput : String :=
  usage ++ "No input: use --text or pipe text on stdin.\n"

def interruption : String :=
  "\nInterrupted by user. Exiting.\n"

/-- Fills a text as an invocation asks. -/
def fill (world : World) (settings : Settings) (userFile : Path) (invocation : Invocation) (text : Text) :
    Noted SetupError Outcome := do
  match ← (collect world userFile invocation).caught with
  | .error error =>
    if error.isReported then
      note (.setupFailure (error.message world.wording))
      return .failed 1 (complaint world.wording (error.message world.wording))
    else
      throw error
  | .ok vars =>
    match ← ((invocation.attempt world settings vars text).reporting
      (FillError.message world.wording)).caught with
    | .error error => return .failed 1 (complaint world.wording (error.message world.wording))
    | .ok result =>
      if invocation.leavesHalf world settings vars text result then throw .unwritable
      else return ⟨0, result, ""⟩

def placesAsked (world : World) (settings : Settings) (userFile : Path) (invocation : Invocation)
    (text : Text) : List Path :=
  match (collect world userFile invocation).outcome.1,
      Plan.ofSettings world (invocation.override settings) invocation.withFiles with
  | .ok vars, .ok plan => plan.places world vars text
  | _, _ => []

def invoke (world : World) (settings : Settings) (userFile : Path) (input : Input) (invocation : Invocation) :
    Noted SetupError Outcome :=
  if invocation.text = some .nothing then throw .noText
  else match input.source (invocation.text.bind Argument.value?) with
    | .absent => return .failed 1 noInput
    | .given text => fill world settings userFile invocation text
    | .stream stream =>
      match stream.read? with
      | none => return .failed 130 interruption
      | some text => fill world settings userFile invocation text

/-- A run of the program with the words of a command line. -/
def run (world : World) (settings : Settings) (userFile : Path) (input : Input) (words : List Text) :
    Noted SetupError Outcome :=
  match parse words with
  | .error error => return .failed 2 error.complaint
  | .ok .help => return ⟨0, help.toList, ""⟩
  | .ok .version => return ⟨0, versionText.toList, ""⟩
  | .ok (.run invocation) => invoke world settings userFile input invocation

end Stencil.CommandLine
