import Stencil.Document
import Stencil.Note

/-!
A file of variables is a JSON document that holds one object. That there is no such file is no error: it
then holds nothing. Every other way in which the variables cannot be had is an error.
-/

namespace Stencil

inductive LoadError
  | nameTooLong (path : Path)
  | forbidden (path : Path)
  | unreadable (path : Path)
  | isDirectory (path : Path)
  | notUtf8 (fault : Utf8.Fault)
  | malformed (path : Path) (text : Text) (fault : Document.Fault)
  | noObject (path : Path)
  deriving DecidableEq, Repr

def permissionDenied (path : Path) : String :=
  "[Errno 13] Permission denied: " ++ String.ofList path.text.quoted

def unreadableFile (path : Path) : String :=
  "Cannot read variables file " ++ String.ofList path.text ++ ": "

/-- The wording of an error. A number that is too long is reported as such, without the file's name. -/
def LoadError.message : LoadError → String
  | .nameTooLong path => "[Errno 36] File name too long: " ++ String.ofList path.text.quoted
  | .forbidden path => permissionDenied path
  | .unreadable path => unreadableFile path ++ permissionDenied path
  | .isDirectory path =>
    unreadableFile path ++ "[Errno 21] Is a directory: " ++ String.ofList path.text.quoted
  | .notUtf8 fault => fault.message
  | .malformed path text fault =>
    match fault with
    | .malformed _ _ =>
      "Invalid JSON in variables file " ++ String.ofList path.text ++ ": " ++ fault.message text
    | .longInteger _ => fault.message text
  | .noObject path =>
    "Variables file " ++ String.ofList path.text ++ " must contain a JSON object"

namespace VariableFile

/-- The variables that the bytes of a file hold, each with the text that it stands for. -/
def ofBytes (path : Path) (bytes : Utf8.Bytes) : Except LoadError Variables :=
  match Utf8.decode bytes with
  | .error fault => .error (.notUtf8 fault)
  | .ok text =>
    let text := text.unified
    match Document.read text with
    | .error fault => .error (.malformed path text fault)
    | .ok (.object members) =>
      .ok ((Value.named members).map fun (name, value) => (name, value.asString))
    | .ok _ => .error (.noObject path)

def exists? (world : World) (path : Path) : Except LoadError Bool :=
  match world.files.visit world.directory path with
  | .ok _ => .ok true
  | .error .missing => .ok false
  | .error .forbidden => .error (.forbidden path)
  | .error .nameTooLong => .error (.nameTooLong path)

/-- The variables that the file at the end of a path holds. That it cannot be opened is told by another error than
that its place cannot be looked at. -/
def load (world : World) (path : Path) : Noted LoadError Variables :=
  match exists? world path with
  | .error error => throw error
  | .ok false => do
    note (.noVariableFile path)
    return []
  | .ok true =>
    match world.files.opened? world.directory path with
    | none => throw (.unreadable path)
    | some .directory => throw (.isDirectory path)
    | some (.file bytes) =>
      match ofBytes path bytes with
      | .ok vars => return vars
      | .error error => throw error

theorem exists?_of_opened? {world : World} {path : Path} {entry : Entry}
    (h : world.files.opened? world.directory path = some entry) : exists? world path = .ok true := by
  unfold FileSystem.opened? at h
  split at h
  · next hvisit => rw [exists?, hvisit]
  · cases h

theorem load_of_file {world : World} {path : Path} {bytes : Utf8.Bytes} {vars : Variables}
    (hfile : world.files.opened? world.directory path = some (.file bytes)) (h : ofBytes path bytes = .ok vars) :
    load world path = pure vars := by
  simp only [load, exists?_of_opened? hfile, hfile, h]

theorem ofBytes_eq_ok {path : Path} {bytes : Utf8.Bytes} {vars : Variables} (h : ofBytes path bytes = .ok vars) :
    ∃ text members, Utf8.decode bytes = .ok text ∧ Document.read text.unified = .ok (.object members) ∧
      vars = (Value.named members).map fun (name, value) => (name, value.asString) := by
  rw [ofBytes] at h
  split at h
  · cases h
  · next text hdecode =>
    simp only at h
    split at h
    · cases h
    · next members hread => exact ⟨text, members, hdecode, hread, (Except.ok.inj h).symm⟩
    · cases h

end VariableFile

end Stencil
