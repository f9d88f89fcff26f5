import Stencil.Text.Basic

/-!
A span of a text stands between an opening and a closing marker. A marker is any text but the empty one:
an empty marker would occur at every place and no scan would ever move on, so the type excludes it and
`Markers.of?` is the one place where a pair of texts becomes a pair of markers. A pair that is refused is
refused for the sides that are empty, and there are three ways for that to happen.
-/

namespace Stencil

/-- A text that can be searched for, that is, one that is not empty. -/
structure Marker where
  text : Text
  nonempty : text ≠ []
  deriving DecidableEq, Repr

inductive Side
  | opening
  | closing
  deriving DecidableEq, Repr

def Side.name : Side → String
  | .opening => "open"
  | .closing => "close"

inductive EmptyMarkers
  | opening
  | closing
  | both
  deriving DecidableEq, Repr

def EmptyMarkers.sides : EmptyMarkers → List Side
  | .opening => [.opening]
  | .closing => [.closing]
  | .both => [.opening, .closing]

/-- The marker that opens a span and the one that closes it. They may be equal. -/
structure Markers where
  opening : Marker
  closing : Marker
  deriving DecidableEq, Repr

/-- The pair of markers with these texts, unless one of them is empty. -/
def Markers.of? : Text → Text → Except EmptyMarkers Markers
  | [], [] => .error .both
  | [], _ :: _ => .error .opening
  | _ :: _, [] => .error .closing
  | o :: os, c :: cs => .ok ⟨⟨o :: os, nofun⟩, ⟨c :: cs, nofun⟩⟩

def EmptyMarkers.summary : String :=
  "Open and close tokens cannot be empty"

end Stencil
