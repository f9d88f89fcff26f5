import Stencil.Inclusion

/-!
Notes are what a run has to say about itself besides its result. They are collected in order and kept
apart from the result, so that leaving them out changes nothing else. `Noted` is a computation that may
fail and takes notes either way.
-/

namespace Stencil

inductive Note
  | unknownVariable (content : Text)
  | inclusion (error : InclusionError)
  | failure (message : String)
  | noVariableFile (path : Path)
  | setupFailure (message : String)
  deriving DecidableEq, Repr

def Note.message : Note → String
  | .unknownVariable content => "Variable not found: " ++ String.ofList content
  | .inclusion error => error.message
  | .failure message => "Error processing input: " ++ message
  | .noVariableFile path => "Variables file not found, using empty mapping: " ++ String.ofList path.text
  | .setupFailure message => "Variable setup failed: " ++ message

def note (n : Note) : StateM (List Note) Unit :=
  modify (· ++ [n])

/-- A computation that takes notes and may fail; the notes taken before a failure stay. -/
abbrev Noted (ε α : Type) := ExceptT ε (StateM (List Note)) α

def Noted.outcome {ε α : Type} (computation : Noted ε α) : Except ε α × List Note :=
  (computation.run.run [])

def Noted.caught {ε δ α : Type} (computation : Noted ε α) : Noted δ (Except ε α) :=
  ExceptT.lift computation.run

def Noted.reporting {ε α : Type} (message : ε → String) (computation : Noted ε α) : Noted ε α :=
  tryCatch computation fun error => do
    note (.failure (message error))
    throw error

/-- The notes that are passed on: none if it is to be quiet. -/
def Note.heard (quiet : Bool) (notes : List Note) : List Note :=
  if quiet then [] else notes

end Stencil
