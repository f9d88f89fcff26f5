import Stencil.CommandLine.Run
import Stencil.Settings.Reading
import Stencil.Surroundings.Wording

/-!
The program. A run is a function of the world, so the part of the world that it asks for has to be there
before it starts. It is fetched in two rounds: first the files of variables, which the command line names,
and then the files that the spans name, which are known once the variables are.
-/

namespace Stencil.Program

def fullPath (names : List Text) : String :=
  String.ofList (Path.text ⟨.single, names⟩)

/-- The file system with what really lies at some places. Where the look at a place is refused, the directory that it
lies in may not be searched. -/
def fetch (files : FileSystem) (places : List (List Text)) : IO FileSystem := do
  let root ← IO.currentDir
  let mut files := files
  for names in places do
    let path := root / fullPath names
    match ← path.metadata.toBaseIO with
    | .error (.permissionDenied ..) => files := files.close names.dropLast
    | .error _ => pure ()
    | .ok found =>
      let opened ← (IO.FS.Handle.mk path .read).toBaseIO
      if found.type == .dir then
        files := files.put names (some .directory)
      else if let .ok handle := opened then
        files := files.put names (some (.file (← handle.readBinToEnd).toList))
      else
        files := files.put names (some (.file []))
      if let .error _ := opened then
        files := files.forbid names
  return files

def wording : Wording :=
  .standard fun _ => ""

def environment : IO (Mapping Text) := do
  let mut found := []
  for field in fieldNames do
    let name := (String.ofList environmentStart ++ field).toUpper
    if let some value ← IO.getEnv name then
      found := found ++ [(name.toList, value.toList)]
  return found

def userFile (home : Text) : IO Path := do
  let directory := match ← IO.getEnv "XDG_CONFIG_HOME" with
    | some directory => directory.toList
    | none => home ++ "/.config".toList
  return Path.ofText (directory ++ "/tokscan/vars.json".toList)

/-- All that is left in a stream. -/
partial def readAll (stream : IO.FS.Stream) (seen : ByteArray) : IO ByteArray := do
  let bytes ← stream.read 65536
  if bytes.isEmpty then return seen
  readAll stream (seen ++ bytes)

def fetchInput (command : Except CommandLine.UsageError CommandLine.Command) : IO Input := do
  let stream ← IO.getStdin
  if ← stream.isTty then return .terminal
  match command with
  | .ok (.run invocation) =>
    if invocation.text.isSome then return .terminal
    match Utf8.decode (← readAll stream .empty).toList with
    | .ok text => return .piped text
    | .error fault => throw (IO.userError fault.message)
  | _ => return .terminal

def fetchWorld (settings : Settings) (userFile : Path) (home : Text) (input : Input)
    (command : Except CommandLine.UsageError CommandLine.Command) : IO World := do
  let directory := Path.resolve ⟨.single, []⟩ (toString (← IO.currentDir)).toList
  let empty : World := ⟨.empty, directory, home, [], wording⟩
  match command with
  | .ok (.run invocation) =>
    let named := (invocation.variableFile.bind CommandLine.Argument.value?).map Path.ofText
    let asked := userFile :: named.toList
    let stations := asked.flatMap fun path =>
      FileSystem.stations (FileSystem.origin directory path) path.names
    let world : World := ⟨← fetch .empty stations, directory, home, [], wording⟩
    let given := invocation.text.bind CommandLine.Argument.value?
    let text := (given.or input.read?).getD []
    let places := CommandLine.placesAsked world settings userFile invocation text
    let files ← fetch world.files (places.map Path.names)
    return ⟨files, directory, home, [], wording⟩
  | _ => return empty

end Stencil.Program

open Stencil Stencil.Program in
def main (arguments : List String) : IO UInt32 := do
  let words := arguments.map String.toList
  match Settings.read [] (← environment) with
  | .error faults =>
    for fault in faults do
      IO.eprintln (fault.field ++ ": " ++ fault.refusal.message)
    return 1
  | .ok settings =>
    let home := ((← IO.getEnv "HOME").getD "/").toList
    let userFile ← userFile home
    let command := CommandLine.parse words
    let input ← fetchInput command
    let world ← fetchWorld settings userFile home input command
    let (result, notes) := (CommandLine.run world settings userFile input words).outcome
    for n in Note.heard settings.quiet notes do
      IO.eprintln n.message
    match result with
    | .error error =>
      IO.eprintln (error.message wording)
      return 1
    | .ok outcome =>
      IO.eprint outcome.errors
      IO.print (String.ofList outcome.output)
      return UInt32.ofNat outcome.code
