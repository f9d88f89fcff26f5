import Stencil.Mapping
import Stencil.Path
import Stencil.Text.Digits
import Stencil.Text.Quoted

/-!
The words of a command line. Every word is classed by itself, before any of them takes effect, and one
that could be two switches spoils the whole line. A long switch may be shortened as long as it stays
clear which one is meant. A word that begins with a dash is a plain word nevertheless if it is a negative
number or holds a space, because no switch looks like that. Behind a word of two dashes all words are
plain.
-/

namespace Stencil.CommandLine

inductive Switch
  | help
  | text
  | define
  | variableFile
  | noVariables
  | enableDefault
  | separator
  | opening
  | closing
  | withFiles
  | version
  deriving DecidableEq, Repr

namespace Switch

def all : List Switch :=
  [ .help, .text, .define, .variableFile, .noVariables, .enableDefault, .separator, .opening, .closing,
    .withFiles, .version ]

def names : Switch → List String
  | .help => ["-h", "--help"]
  | .text => ["--text"]
  | .define => ["--var"]
  | .variableFile => ["--vars-file"]
  | .noVariables => ["--no-vars"]
  | .enableDefault => ["--enable-default-value"]
  | .separator => ["--separator"]
  | .opening => ["--open"]
  | .closing => ["--close"]
  | .withFiles => ["--include"]
  | .version => ["-V", "--version"]

def title (switch : Switch) : String :=
  "/".intercalate switch.names

def takesValue : Switch → Bool
  | .text | .define | .variableFile | .separator | .opening | .closing => true
  | .help | .noVariables | .enableDefault | .withFiles | .version => false

def spellings : Mapping Switch :=
  all.flatMap fun switch => switch.names.map fun name => (name.toList, switch)

def ofSpelling? (spelling : Text) : Option Switch :=
  spellings.get? spelling

end Switch

inductive UsageError
  | ambiguous (word : Text) (spellings : List Text)
  | noValue (switch : Switch)
  | strayValue (switch : Switch) (value : Text)
  | unrecognized (words : List Text)
  deriving DecidableEq, Repr

def UsageError.message : UsageError → String
  | .ambiguous word spellings =>
    "ambiguous option: " ++ String.ofList word ++ " could match " ++
      ", ".intercalate (spellings.map String.ofList)
  | .noValue switch => "argument " ++ switch.title ++ ": expected one argument"
  | .strayValue switch value =>
    "argument " ++ switch.title ++ ": ignored explicit argument " ++ String.ofList value.quoted
  | .unrecognized words => "unrecognized arguments: " ++ " ".intercalate (words.map String.ofList)

/-- What a word is taken for. A switch may have its value attached, and is spelled in full here even if
the word shortens it. -/
inductive Word
  | plain
  | terminator
  | unknown
  | switch (switch : Switch) (spelling : Text) (attached : Option Text)
  deriving DecidableEq, Repr

/-! ### Negative numbers -/

def isUnsignedNumber (text : Text) : Bool :=
  match text.span Text.isDecimalDigit with
  | (whole, []) => whole ≠ []
  | (_, '.' :: fraction) => fraction ≠ [] && fraction.all Text.isDecimalDigit
  | _ => false

def isNegativeNumber : Text → Bool
  | '-' :: number =>
    isUnsignedNumber number ||
      (number.getLast? == some '\n' && isUnsignedNumber number.dropLast)
  | _ => false

/-! ### Classing a word -/

def attachedValue (word : Text) : Text × Option Text :=
  match Text.cut? ['='] word with
  | some (stem, value) => (stem, some value)
  | none => (word, none)

/-- The switches that a word could stand for: a long one that it shortens, or a short one that has
something attached to it. -/
def readings (word : Text) : List (Switch × Text × Option Text) :=
  match word with
  | '-' :: '-' :: _ =>
    let (stem, value) := attachedValue word
    Switch.spellings.filterMap fun (spelling, switch) =>
      if stem.isPrefixOf spelling then some (switch, spelling, value) else none
  | _ =>
    Switch.spellings.filterMap fun (spelling, switch) =>
      if spelling = word.take 2 then some (switch, spelling, some (word.drop 2)) else none

def classify (word : Text) : Except UsageError Word :=
  if word.head? ≠ some '-' then .ok .plain
  else match Switch.ofSpelling? word with
    | some switch => .ok (.switch switch word none)
    | none =>
      if word.length = 1 then .ok .plain
      else
        let (stem, value) := attachedValue word
        match Switch.ofSpelling? stem, value with
        | some switch, some value => .ok (.switch switch stem (some value))
        | _, _ =>
          match readings word with
          | [(switch, spelling, value)] => .ok (.switch switch spelling value)
          | [] =>
            if isNegativeNumber word || word.contains ' ' then .ok .plain else .ok .unknown
          | several => .error (.ambiguous word (several.map fun (_, spelling, _) => spelling))

def classifyAll : List Text → Except UsageError (List (Text × Word))
  | [] => .ok []
  | word :: words =>
    if word = ['-', '-'] then
      .ok ((word, .terminator) :: words.map fun word => (word, .plain))
    else do
      let first ← classify word
      let others ← classifyAll words
      return (word, first) :: others

end Stencil.CommandLine
