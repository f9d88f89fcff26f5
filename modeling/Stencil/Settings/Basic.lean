import Stencil.Markers

/-!
The settings of a run. They are plain values; that a marker must not be empty is a rule of the markers,
and is looked at only when markers are asked for. So settings can be made one by one in any order.
-/

namespace Stencil

/-- Whether notes are kept back, what spans of variables and of files look like, what counts as the default of a
variable, and which files may be included. -/
structure Settings where
  quiet : Bool := false
  opening : Text := ['$', '{']
  closing : Text := ['}']
  enableDefault : Bool := false
  separator : Text := [':']
  fileOpening : Text := ['%', '{']
  fileClosing : Text := ['}']
  fileLimit : Int := 1048576
  fileBase : Option Text := none
  deriving DecidableEq, Repr

namespace Settings

def markers (settings : Settings) : Except EmptyMarkers Markers :=
  Markers.of? settings.opening settings.closing

def fileMarkers (settings : Settings) : Except EmptyMarkers Markers :=
  Markers.of? settings.fileOpening settings.fileClosing

end Settings

end Stencil
