import Stencil.Text.Blank
import Stencil.Text.Lines
import Stencil.World

/-!
A span that names a file. The content of the span is freed of blanks at its ends, a `~` at its start is
replaced by a home directory, and the place it then names is worked out by the names alone. Only when that
place is found to lie where files may be included from is the file system looked at. The checks come in a
fixed order, and the first that fails is the error.
-/

namespace Stencil

inductive InclusionError
  | nulInUserName
  | outside (path : Path)
  | missing (path : Path)
  | unreadable (path : Path)
  | tooLarge (path : Path) (size : Nat)
  | notUtf8 (path : Path)
  deriving DecidableEq, Repr

def InclusionError.message : InclusionError → String
  | .nulInUserName => "embedded null byte"
  | .outside path =>
    "Access denied - path outside base directory: " ++ String.ofList path.text
  | .missing path => "File not found: " ++ String.ofList path.text
  | .unreadable path => "File not readable: " ++ String.ofList path.text
  | .tooLarge path size =>
    "File too large: " ++ String.ofList path.text ++ " (" ++ toString size ++ " bytes)"
  | .notUtf8 path => "File is not valid UTF-8: " ++ String.ofList path.text

/-- Whether an error is about the file that was asked for. The other kind comes up before it is known
which file that is. -/
def InclusionError.namesFile : InclusionError → Bool
  | .nulInUserName => false
  | _ => true

namespace World

def inHome (home rest : Text) : Text :=
  let path := (home.reverse.dropWhile (· == '/')).reverse ++ rest
  if path = [] then ['/'] else path

/-- The text with a `~` or a `~` and a user's name at its start replaced by the home directory it stands
for. A name that is no user's stays as it is, but no user can be asked for by a name with a NUL in it. -/
def expandHome (world : World) (text : Text) : Except InclusionError Text :=
  match text with
  | '~' :: text' =>
    let (name, rest) := text'.span (· ≠ '/')
    if name = [] then .ok (inHome world.home rest)
    else if name.contains '\x00' then .error .nulInUserName
    else match Mapping.get? name world.users with
      | some home => .ok (inHome home rest)
      | none => .ok text
  | _ => .ok text

def placeOf (world : World) (content : Text) : Except InclusionError Path :=
  (world.expandHome (content.trim Blank.isBlank)).map (Path.resolve world.directory)

end World

/-- What files may be included: none with more bytes than the limit, and none outside the base directory
if there is one. -/
structure Inclusion where
  limit : Int
  base : Option Path
  deriving DecidableEq, Repr

namespace Inclusion

/-- The inclusion with these settings. An empty base stands for none. -/
def ofSettings (world : World) (limit : Int) : Option Text → Inclusion
  | none => ⟨limit, none⟩
  | some [] => ⟨limit, none⟩
  | some base => ⟨limit, some (Path.resolve world.directory base)⟩

/-- Whether a place is one that files may be included from. -/
def permits (inclusion : Inclusion) (path : Path) : Bool :=
  match inclusion.base with
  | none => true
  | some base => base.isWithin path

/-- The bytes of the file at a place. The file is opened when it has passed all checks, and no sooner. -/
def bytesAt (inclusion : Inclusion) (files : FileSystem) (path : Path) :
    Except InclusionError Utf8.Bytes :=
  if !inclusion.permits path then .error (.outside path)
  else match files.find path with
    | some (.file bytes) =>
      if !files.readable path.names then .error (.unreadable path)
      else if inclusion.limit < bytes.length then .error (.tooLarge path bytes.length)
      else .ok bytes
    | _ => .error (.missing path)

def readFile (inclusion : Inclusion) (files : FileSystem) (path : Path) : Except InclusionError Text := do
  match Utf8.decode (← inclusion.bytesAt files path) with
  | .error _ => .error (.notUtf8 path)
  | .ok text => .ok text.unified

def reply (inclusion : Inclusion) (world : World) (content : Text) : Except InclusionError Text := do
  inclusion.readFile world.files (← world.placeOf content)

end Inclusion

end Stencil
