import Stencil.Property
import Stencil.Settings.Reading
import Stencil.VariableFile

/-!
A session goes through steps that change settings, variables and files and that run texts. What it has
built stays as it was built, whatever becomes of the settings, but not of the variables: a plan in use is
tied to the mapping that was there when it was built, and sees every change made in that mapping. A new mapping
in the place of the old one is another matter, and the plan in use does not see it, until the old one is put back.

So mappings have an identity. They lie in a store, a mapping is named by its number in the store, and a
change is made in the store.
-/

namespace Stencil

/-- A plan in use, with the number of the mapping that it was built with. -/
structure Build where
  plan : Plan
  vars : Option Nat

structure Session where
  world : World
  settings : Settings
  store : List Variables
  present : Option Nat
  build : Option Build
  last : Text

/-- One step. A step that runs a text runs the last result if it brings none along. -/
inductive Step
  | assign (field : String) (value : Value)
  | replace (vars : Option Variables)
  | restore (number : Nat)
  | load (path : Text)
  | define (name : Text) (value : Value)
  | undefine (name : Text)
  | write (place : Text) (bytes : Utf8.Bytes)
  | remove (place : Text)
  | build (withFiles : Bool)
  | parse (text : Option Text)
  | property (text : Option Text)
  | process (withFiles : Bool) (text : Option Text)

inductive Answer
  | settings (settings : Settings)
  | vars (vars : Option Variables)
  | done
  | plan (plan : Plan)
  | text (text : Text)
  | outcome (outcome : Except RunError Text)
  | loadError (error : LoadError)
  | empty (empty : EmptyMarkers)
  | inclusionError (error : InclusionError)

namespace Session

def start (world : World) (settings : Settings) (vars : Option Variables) : Session where
  world := world
  settings := settings
  store := vars.toList
  present := vars.map fun _ => 0
  build := none
  last := []

def mapping (session : Session) (number : Option Nat) : Option Variables := do
  session.store[← number]?

def vars (session : Session) : Option Variables :=
  session.mapping session.present

def withMapping (session : Session) : Option Variables → Session
  | none => { session with present := none }
  | some vars =>
    { session with store := session.store ++ [vars], present := some session.store.length }

/-- The session with a mapping of the store put back, if there is one with this number. -/
def withStored (session : Session) (number : Nat) : Session :=
  if number < session.store.length then { session with present := some number } else session

/-- The session with a change made in the mapping that is there now. -/
def change (session : Session) (f : Variables → Variables) : Session :=
  match session.present with
  | none => session
  | some number => { session with store := session.store.modify number f }

def place (session : Session) (text : Text) : List Text :=
  (Path.resolve session.world.directory text).names

def withFiles (session : Session) (files : FileSystem) : Session :=
  { session with world := { session.world with files := files } }

/-- Runs a text through what is built. With nothing built the text stays as it is. -/
def parse (session : Session) (text : Text) : Noted InclusionError Text :=
  match session.build with
  | none => return text
  | some build => build.plan.run session.world (session.mapping build.vars) text

def step (session : Session) : Step → StateM (List Note) (Answer × Session)
  | .assign field value =>
    let settings := (session.settings.assign? field value).getD session.settings
    return (.settings settings, { session with settings := settings })
  | .replace vars => return (.vars vars, session.withMapping vars)
  | .restore number =>
    let session := session.withStored number
    return (.vars session.vars, session)
  | .load path => do
    match ← (VariableFile.load session.world (Path.ofText path)).run with
    | .ok vars => return (.vars (some vars), session.withMapping (some vars))
    | .error error => return (.loadError error, session)
  | .define name value =>
    let session := session.change (Mapping.insert name value)
    return (.vars session.vars, session)
  | .undefine name =>
    let session := session.change (Mapping.erase name)
    return (.vars session.vars, session)
  | .write text bytes =>
    return (.done, session.withFiles (session.world.files.write (session.place text) bytes))
  | .remove text =>
    return (.done, session.withFiles (session.world.files.remove (session.place text)))
  | .build withFiles =>
    match Plan.ofSettings session.world session.settings withFiles with
    | .error empty => return (.empty empty, { session with build := none })
    | .ok plan => return (.plan plan, { session with build := some ⟨plan, session.present⟩ })
  | .parse text => do
    match ← (session.parse (text.getD session.last)).run with
    | .ok result => return (.text result, { session with last := result })
    | .error error => return (.inclusionError error, session)
  | .property text => do
    match ← (Property.fill session.vars none none (text.getD session.last)).run with
    | .ok result => return (.text result, { session with last := result })
  | .process withFiles text => do
    let outcome ← (Stencil.process session.world session.settings withFiles session.vars
      (text.getD session.last)).run
    return (.outcome outcome, { session with last := outcome.toOption.getD [] })

def steps (session : Session) : List Step → StateM (List Note) (List Answer × Session)
  | [] => return ([], session)
  | step :: more => do
    let (answer, session) ← session.step step
    let (answers, session) ← session.steps more
    return (answer :: answers, session)

end Session

end Stencil
