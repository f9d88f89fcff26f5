import Stencil.Segmentation
import Stencil.Value

/-!
A span that names a variable. With defaults enabled the content of a span may go on behind the name with
a separator and a text to use when there is no such variable. A span without an answer goes back into the
text between its markers, so that a later pass can see it again; that it has none is an answer too, never
an error.

`Lookup.question` is what a content asks for, and does not depend on the variables. All that the
variables decide is `Lookup.answer?`.
-/

namespace Stencil

/-- How spans are answered from variables: the variables, or that there are none to be looked into; the
options on defaults; and the markers that an unanswered content is put between. -/
structure Lookup where
  vars : Option Variables
  enableDefault : Bool
  separator : Text
  opening : Text
  closing : Text

namespace Lookup

/-- The name that a content asks for, and the default that it brings along. An empty separator stands
before the first character, so that the name is empty and all of the content is the default. -/
def question (lookup : Lookup) (content : Text) : Text × Option Text :=
  if lookup.enableDefault then
    match Text.cut? lookup.separator content with
    | some (name, default) => (name, some default)
    | none => (content, none)
  else
    (content, none)

/-- What stands in the place of a content: the text of the variable that it asks for, or else its
default. Without variables to look into not even a default is an answer. -/
def answer? (lookup : Lookup) (content : Text) : Option Text := do
  let vars ← lookup.vars
  let (name, default) := lookup.question content
  match vars.get? name with
  | some value => return value.display
  | none => default

def rewrap (lookup : Lookup) (content : Text) : Text :=
  lookup.opening ++ content ++ lookup.closing

def reply (lookup : Lookup) (content : Text) : Text :=
  (lookup.answer? content).getD (lookup.rewrap content)

/-- Whether it is worth a note that a content has no answer: there were variables to look into. -/
def isUnknown (lookup : Lookup) (content : Text) : Bool :=
  lookup.vars.isSome && (lookup.answer? content).isNone

theorem answer?_of_vars_eq_none {lookup : Lookup} (h : lookup.vars = none) (content : Text) :
    lookup.answer? content = none := by
  simp [answer?, h]

theorem reply_of_vars_eq_none {lookup : Lookup} (h : lookup.vars = none) (content : Text) :
    lookup.reply content = lookup.rewrap content := by
  simp [reply, answer?_of_vars_eq_none h]

end Lookup

end Stencil
