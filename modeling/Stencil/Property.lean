import Stencil.Pipeline

/-!
Placeholders in the text of a property. The variables may bring their own options along: what a caller
leaves open is looked up among them under two keys of its own. The keys stay ordinary variables all the
same.
-/

namespace Stencil.Property

def keyStart : Text := "tokscan.parsing.PropertyParser.".toList

def enableKey : Text := keyStart ++ "enable-default-value".toList

def separatorKey : Text := keyStart ++ "default-value-separator".toList

def textOr (vars : Option Variables) (key default : Text) : Text :=
  match vars.bind (Mapping.get? key) with
  | some value => value.display
  | none => default

def markers : Markers where
  opening := ⟨['$', '{'], nofun⟩
  closing := ⟨['}'], nofun⟩

def lookup (vars : Option Variables) (enable : Option Bool) (separator : Option Text) : Lookup where
  vars := vars
  enableDefault := enable.getD ((textOr vars enableKey "false".toList).lowered == "true".toList)
  separator := separator.getD (textOr vars separatorKey [':'])
  opening := markers.opening.text
  closing := markers.closing.text

/-- The text with its placeholders filled, and the notes on those that could not be. -/
def fill (vars : Option Variables) (enable : Option Bool) (separator : Option Text) (text : Text) :
    Noted Empty Text :=
  markers.fill (lookup vars enable separator).noted text

end Stencil.Property
