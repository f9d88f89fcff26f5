import Stencil.Settings.Basic
import Stencil.Settings.Coercion

/-!
Where settings come from. A setting that is given by name wins over one from the environment, and what
neither gives has its default. Names in the environment begin with a word of their own. No name is looked
at for case; of two names that differ in case alone the later one wins, unless one of them is the name of
the setting to the letter. All refusals are reported, in the order of the settings.
-/

namespace Stencil

structure FieldFault where
  field : String
  refusal : Refusal
  deriving DecidableEq, Repr

def fieldNames : List String :=
  [ "beQuiet", "open_token", "close_token", "enable_default_value", "default_value_separator",
    "file_open_token", "file_close_token", "file_max_size", "file_base_path" ]

def environmentStart : Text := "tokscan_".toList

def underLowered {α : Type} (entries : Mapping α) : Mapping α :=
  Mapping.ofPairs (entries.map fun (name, value) => (name.lowered, value))

structure Offer where
  given : Mapping Value
  environment : Mapping Text

/-- The value given for a setting: the one under its name, or else the one under its name in other
letters, or else the one in the environment. -/
def Offer.value? (offer : Offer) (field : String) : Option Value :=
  let name := Text.lowered field.toList
  (offer.given.get? field.toList).or <| ((underLowered offer.given).get? name).or <|
    ((underLowered offer.environment).get? (environmentStart ++ name)).map .text

def Offer.fieldOr {α : Type} (offer : Offer) (field : String) (coerce : Value → Except Refusal α)
    (default : α) : α × List FieldFault :=
  match offer.value? field with
  | none => (default, [])
  | some value =>
    match coerce value with
    | .ok a => (a, [])
    | .error refusal => (default, [⟨field, refusal⟩])

/-- The settings that are given by name or in the environment. -/
def Settings.read (given : Mapping Value) (environment : Mapping Text) :
    Except (List FieldFault) Settings :=
  let offer : Offer := ⟨given, environment⟩
  let default : Settings := {}
  let (quiet, f₁) := offer.fieldOr "beQuiet" Coercion.toTruth default.quiet
  let (opening, f₂) := offer.fieldOr "open_token" Coercion.toText default.opening
  let (closing, f₃) := offer.fieldOr "close_token" Coercion.toText default.closing
  let (enableDefault, f₄) :=
    offer.fieldOr "enable_default_value" Coercion.toTruth default.enableDefault
  let (separator, f₅) :=
    offer.fieldOr "default_value_separator" Coercion.toText default.separator
  let (fileOpening, f₆) := offer.fieldOr "file_open_token" Coercion.toText default.fileOpening
  let (fileClosing, f₇) := offer.fieldOr "file_close_token" Coercion.toText default.fileClosing
  let (fileLimit, f₈) := offer.fieldOr "file_max_size" Coercion.toInteger default.fileLimit
  let (fileBase, f₉) := offer.fieldOr "file_base_path" Coercion.toText? default.fileBase
  match f₁ ++ f₂ ++ f₃ ++ f₄ ++ f₅ ++ f₆ ++ f₇ ++ f₈ ++ f₉ with
  | [] => .ok
      { quiet, opening, closing, enableDefault, separator, fileOpening, fileClosing, fileLimit,
        fileBase }
  | faults => .error faults

/-- The settings with one of them changed, if there is one of that name and the value is of its kind. -/
def Settings.assign? (settings : Settings) (field : String) (value : Value) : Option Settings :=
  match field, value with
  | "beQuiet", .bool value => some { settings with quiet := value }
  | "open_token", .text value => some { settings with opening := value }
  | "close_token", .text value => some { settings with closing := value }
  | "enable_default_value", .bool value => some { settings with enableDefault := value }
  | "default_value_separator", .text value => some { settings with separator := value }
  | "file_open_token", .text value => some { settings with fileOpening := value }
  | "file_close_token", .text value => some { settings with fileClosing := value }
  | "file_max_size", .int value => some { settings with fileLimit := value }
  | "file_base_path", .text value => some { settings with fileBase := some value }
  | "file_base_path", .null => some { settings with fileBase := none }
  | _, _ => none

/-! ### Markers given by name -/

def EmptyMarkers.faults (empty : EmptyMarkers) : List FieldFault :=
  empty.sides.map fun side => ⟨side.name, .empty⟩

def sideText (given : Mapping Value) (side : Side) : Except Refusal Text := do
  let some value := given.get? side.name.toList | .error .missing
  let text ← Coercion.toText value
  if text = [] then .error .empty else .ok text

def sideFaults (given : Mapping Value) (side : Side) : List FieldFault :=
  match sideText given side with
  | .ok _ => []
  | .error refusal => [⟨side.name, refusal⟩]

def Markers.read (given : Mapping Value) : Except (List FieldFault) Markers :=
  match sideText given .opening, sideText given .closing with
  | .ok opening, .ok closing =>
    match Markers.of? opening closing with
    | .ok markers => .ok markers
    | .error empty => .error empty.faults
  | _, _ => .error (sideFaults given .opening ++ sideFaults given .closing)

end Stencil
