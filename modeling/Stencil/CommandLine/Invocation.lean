import Stencil.CommandLine.Words

/-!
What a command line asks for. The words take effect from left to right, and the two switches that ask for
a text about the program end the matter on the spot, whatever is wrong further on. Words that nothing is
done with are gathered and refused at the end, all at once.

Two dashes never are a value. Where they stand attached to a switch that takes one, the switch is given and
has no value, and what comes of that is left to whatever needs the value.
-/

namespace Stencil.CommandLine

/-- What a switch that takes a value is given. -/
inductive Argument
  | text (value : Text)
  | nothing
  deriving DecidableEq, Repr

namespace Argument

def ofAttached (value : Text) : Argument :=
  if value = ['-', '-'] then .nothing else .text value

def value? : Argument → Option Text
  | .text value => some value
  | .nothing => none

end Argument

/-- What a run is asked to do. What is not given is left to the settings. -/
structure Invocation where
  text : Option Argument := none
  definitions : List Argument := []
  variableFile : Option Argument := none
  noVariables : Bool := false
  enableDefault : Bool := false
  separator : Option Argument := none
  opening : Option Argument := none
  closing : Option Argument := none
  withFiles : Bool := false
  deriving DecidableEq, Repr

inductive Command
  | help
  | version
  | run (invocation : Invocation)
  deriving DecidableEq, Repr

namespace Invocation

/-- The invocation with a switch that takes a value. A definition is added to the others, and of any other
switch the last argument counts. -/
def give (invocation : Invocation) (argument : Argument) : Switch → Invocation
  | .text => { invocation with text := some argument }
  | .define => { invocation with definitions := invocation.definitions ++ [argument] }
  | .variableFile => { invocation with variableFile := some argument }
  | .separator => { invocation with separator := some argument }
  | .opening => { invocation with opening := some argument }
  | .closing => { invocation with closing := some argument }
  | .help | .noVariables | .enableDefault | .withFiles | .version => invocation

/-- The invocation with a switch that has no value, or the text about the program that it asks for. -/
def turn (invocation : Invocation) : Switch → Command
  | .help => .help
  | .version => .version
  | .noVariables => .run { invocation with noVariables := true }
  | .enableDefault => .run { invocation with enableDefault := true }
  | .withFiles => .run { invocation with withFiles := true }
  | .text | .define | .variableFile | .separator | .opening | .closing => .run invocation

end Invocation

/-- Looks at what is attached to a short switch without a value: each character must be another such
switch. -/
def checkCluster (switch : Switch) : Text → Except UsageError Unit
  | [] => .ok ()
  | c :: more =>
    match Switch.ofSpelling? ['-', c] with
    | none => .error (.strayValue switch (c :: more))
    | some other => checkCluster other more

/-- Looks at what is attached to a switch without a value. Only a short switch may have something
attached. -/
def checkAttached (switch : Switch) (spelling : Text) : Option Text → Except UsageError Unit
  | none => .ok ()
  | some [] => .error (.strayValue switch [])
  | some (c :: value) =>
    if spelling.length = 2 then checkCluster switch (c :: value)
    else .error (.strayValue switch (c :: value))

/-- Lets classed words take effect on an invocation. `extras` holds the words so far that nothing was
done with. -/
def apply (invocation : Invocation) (extras : List Text) :
    List (Text × Word) → Except UsageError Command
  | [] => if extras = [] then .ok (.run invocation) else .error (.unrecognized extras)
  | (_, .switch switch spelling attached) :: words =>
    if switch.takesValue then
      match attached, words with
      | some value, words => apply (invocation.give (.ofAttached value) switch) extras words
      | none, (value, .plain) :: words => apply (invocation.give (.text value) switch) extras words
      | none, _ => .error (.noValue switch)
    else do
      checkAttached switch spelling attached
      match invocation.turn switch with
      | .run invocation => apply invocation extras words
      | command => .ok command
  | (word, _) :: words => apply invocation (extras ++ [word]) words

/-- What the words of a command line ask for. -/
def parse (words : List Text) : Except UsageError Command := do
  apply {} [] (← classifyAll words)

end Stencil.CommandLine
