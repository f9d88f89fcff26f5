import Stencil.CommandLine.Invocation
import Stencil.Markers
import Stencil.VariableFile

/-!
What has to be there before a run can fill a text: the text, which is given or comes in a stream, and the
variables, which come from a file and from definitions on the command line. The variables are collected
only after it is clear that there is a text to fill.

Most errors in this are reported to the user. Three kinds end the run without a report: a path that cannot be
asked for, since it is too long or leads through a directory that may not be searched; a switch without a value
where the text, a definition or the file of variables should be; and, when all else has gone well, a text that
cannot be written.
-/

namespace Stencil

/-- Where a text may come from when none is given: a terminal, which is not read from, a stream, or a
stream that is broken off by the user. -/
inductive Input
  | terminal
  | piped (text : Text)
  | interrupted
  deriving DecidableEq, Repr

inductive Source
  | given (text : Text)
  | stream (input : Input)
  | absent
  deriving DecidableEq, Repr

def Input.source (input : Input) : Option Text → Source
  | some text => .given text
  | none => match input with
    | .terminal => .absent
    | input => .stream input

def Input.read? : Input → Option Text
  | .piped text => some text
  | .terminal => some []
  | .interrupted => none

namespace CommandLine

/-- Why there is no text to fill or there are no variables to fill it with, or why the text that comes of it cannot
be written. -/
inductive SetupError
  | noText
  | load (error : LoadError)
  | noFile (path : Path)
  | badDefinition (definition : Text)
  | unnamedFile
  | noDefinition
  | unwritable
  deriving DecidableEq, Repr

def SetupError.message (wording : Wording) : SetupError → String
  | .noText => wording.noText
  | .load error => error.message
  | .noFile path => "Variables file not found: " ++ String.ofList path.text
  | .badDefinition definition =>
    "Invalid variable definition (expected KEY=VALUE): " ++ String.ofList definition
  | .unnamedFile => "'list' object has no attribute 'exists'"
  | .noDefinition => "'list' object has no attribute 'partition'"
  | .unwritable => "surrogates not allowed"

/-- Whether an error is reported in an outcome. -/
def SetupError.isReported : SetupError → Bool
  | .noText | .load (.nameTooLong _) | .load (.forbidden _) | .unnamedFile | .noDefinition | .unwritable => false
  | .load _ | .noFile _ | .badDefinition _ => true

/-- The variable that a definition defines: the name stands before the first equals sign, and must not be
empty. -/
def definition (text : Text) : Except SetupError (Text × Value) :=
  match Text.cut? ['='] text with
  | some (c :: name, value) => .ok (c :: name, .text value)
  | _ => .error (.badDefinition text)

/-- The variables that definitions define, the last one of a name if it is defined again. -/
def definitions (arguments : List Argument) : Except SetupError Variables :=
  let pairs := arguments.mapM fun
    | .text text => definition text
    | .nothing => .error .noDefinition
  pairs.map Mapping.ofPairs

/-- The variables in the file that is named, which must be there, or else in the user's own file if there
is one. -/
def fileVariables (world : World) (userFile : Path) (named : Option Argument) :
    Noted SetupError Variables := do
  match named with
  | some .nothing => throw .unnamedFile
  | some (.text name) =>
    let path := Path.ofText name
    match VariableFile.exists? world path with
    | .error error => throw (.load error)
    | .ok false => throw (.noFile path)
    | .ok true => (VariableFile.load world path).adapt .load
  | none =>
    match VariableFile.exists? world userFile with
    | .error error => throw (.load error)
    | .ok false => return []
    | .ok true => (VariableFile.load world userFile).adapt .load

/-- The variables to fill a text with: those of a file and, over them, those that are defined on the
command line; or none to be looked into. -/
def collect (world : World) (userFile : Path) (invocation : Invocation) :
    Noted SetupError (Option Variables) := do
  if invocation.noVariables then
    return none
  let vars ← fileVariables world userFile invocation.variableFile
  match definitions invocation.definitions with
  | .error error => throw error
  | .ok defined => return some (vars.insertAll defined)

end CommandLine

end Stencil
