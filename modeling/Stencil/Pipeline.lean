import Stencil.Lookup
import Stencil.Note
import Stencil.Scan
import Stencil.Settings.Basic

/-!
A run of a text through its passes: first the spans of variables are filled, and then, if files are to be
included, the spans of files in what has come out. A file that is included is not looked at for spans, and
neither is the text of a variable for spans of variables.

What the settings decide is worked out before the text is touched and makes a `Plan`. The variables are not
part of it, so that a plan can outlive a change of them. A run ends with a text or with one error, and an
error leaves no text behind.
-/

namespace Stencil

/-- The passes that settings ask for. -/
structure Plan where
  markers : Markers
  enableDefault : Bool
  separator : Text
  files : Option (Markers × Inclusion)

inductive RunError
  | markers (empty : EmptyMarkers)
  | inclusion (error : InclusionError)
  deriving DecidableEq, Repr

def RunError.message (wording : Wording) : RunError → String
  | .markers empty => empty.message wording
  | .inclusion error => error.message

/-! ### The two kinds of replies, with their notes -/

def Lookup.noted {ε : Type} (lookup : Lookup) (content : Text) : Noted ε Text := do
  if lookup.isUnknown content then
    note (.unknownVariable content)
  return lookup.reply content

def Inclusion.noted (inclusion : Inclusion) (world : World) (content : Text) : Noted InclusionError Text :=
  match inclusion.reply world content with
  | .ok text => return text
  | .error error => do
    if error.namesFile then
      note (.inclusion error)
    throw error

namespace Plan

/-- The plan that settings make, unless a marker that is needed is empty. -/
def ofSettings (world : World) (settings : Settings) (withFiles : Bool) : Except EmptyMarkers Plan := do
  let markers ← settings.markers
  let files ←
    if withFiles then
      (settings.fileMarkers).map fun markers =>
        some (markers, Inclusion.ofSettings world settings.fileLimit settings.fileBase)
    else
      .ok none
  return ⟨markers, settings.enableDefault, settings.separator, files⟩

def lookup (plan : Plan) (vars : Option Variables) : Lookup where
  vars := vars
  enableDefault := plan.enableDefault
  separator := plan.separator
  opening := plan.markers.opening.text
  closing := plan.markers.closing.text

/-- The passes over a text. -/
def run (plan : Plan) (world : World) (vars : Option Variables) (text : Text) :
    Noted InclusionError Text := do
  let text ← plan.markers.fill (plan.lookup vars).noted text
  match plan.files with
  | none => return text
  | some (markers, inclusion) => markers.fill (inclusion.noted world) text

/-- The places that the spans of files name once the variables are filled in. -/
def places (plan : Plan) (world : World) (vars : Option Variables) (text : Text) : List Path :=
  match plan.files with
  | none => []
  | some (markers, _) =>
    let text := Id.run (plan.markers.fill (fun content => pure ((plan.lookup vars).reply content)) text)
    (markers.contents (markers.segment text)).filterMap fun content => (world.placeOf content).toOption

end Plan

/-- A run of a text under settings. -/
def attempt (world : World) (settings : Settings) (withFiles : Bool) (vars : Option Variables)
    (text : Text) : Noted RunError Text :=
  match Plan.ofSettings world settings withFiles with
  | .error empty => throw (.markers empty)
  | .ok plan => (plan.run world vars text).adapt RunError.inclusion

def process (world : World) (settings : Settings) (withFiles : Bool) (vars : Option Variables)
    (text : Text) : Noted RunError Text :=
  (attempt world settings withFiles vars text).reporting (RunError.message world.wording)

/-! ### What is shown of a run -/

/-- The text that a run ends with, the wording of its error if there is one, and whether it went well. -/
structure Result where
  text : Text
  error : Option String
  success : Bool
  deriving DecidableEq, Repr

def Result.ofOutcome (wording : Wording) : Except RunError Text → Result
  | .ok text => ⟨text, none, true⟩
  | .error error => ⟨[], some (error.message wording), false⟩

/-- A run of a text under settings as it is shown, and its notes. No text is as good as the empty one. -/
def processed (world : World) (settings : Settings) (withFiles : Bool) (vars : Option Variables)
    (text : Option Text) : Result × List Note :=
  let (outcome, notes) := (process world settings withFiles vars (text.getD [])).outcome
  (.ofOutcome world.wording outcome, notes)

end Stencil
