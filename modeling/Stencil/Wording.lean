import Stencil.Markers

/-!
Some of what a run says is not its own. How a refusal of markers or of a missing text is worded is left to the
library that checks them, and what comes out of a report is left to the terminal. Both are parameters here: the
program fills them in where it starts, and nothing that is proved depends on them.
-/

namespace Stencil

/-- What can be wrong with one side of a pair that is asked for: its text is empty, or it is no text. -/
inductive SideFault
  | empty
  | noText
  deriving DecidableEq, Repr

/-- The words of the libraries: of the check of a pair of markers, for the faults of its sides in order; of the
check that there is a text; and of the terminal, for a report with what it begins with. -/
structure Wording where
  sides : List (Side × SideFault) → String
  noText : String
  report : String → String → String

def EmptyMarkers.message (wording : Wording) (empty : EmptyMarkers) : String :=
  wording.sides (empty.sides.map fun side => (side, .empty))

end Stencil
