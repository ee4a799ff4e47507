import YiiNavigator.Convention
import YiiNavigator.Record.Value

/-!
# Settings that make a convention

A convention is read from a record with one field for each of its parts. Where a field is not
given, an environment variable may give it, and the stock layout of an application does otherwise.
-/

namespace YiiNavigator
namespace Convention

/-- One of the eight settings: its field in a record, its environment variable and its value in
the stock layout. -/
structure Setting where
  field : Text
  environment : Text
  stock : Text

/-- The settings in the order of the fields of a convention. -/
def settings : List Setting :=
  [ ⟨"protected_dir".toList, "YII_PROTECTED_DIR".toList, "protected".toList⟩,
    ⟨"views_dir".toList, "YII_VIEWS_DIR".toList, "views".toList⟩,
    ⟨"controllers_dir".toList, "YII_CONTROLLERS_DIR".toList, "controllers".toList⟩,
    ⟨"modules_dir".toList, "YII_MODULES_DIR".toList, "modules".toList⟩,
    ⟨"framework_dir".toList, "YII_FRAMEWORK_DIR".toList, "framework".toList⟩,
    ⟨"view_extension".toList, "YII_VIEW_EXTENSION".toList, ".php".toList⟩,
    ⟨"controller_suffix".toList, "YII_CONTROLLER_SUFFIX".toList, "Controller".toList⟩,
    ⟨"action_prefix".toList, "YII_ACTION_PREFIX".toList, "action".toList⟩ ]

/-! ## Reading a record -/

/-- Reads a text that is not empty. -/
def readName (value : Value) : Checked { t : Text // t ≠ [] } := do
  let t ← value.readText
  if h : t ≠ [] then return ⟨t, h⟩ else Checked.fail .emptyText

/-- Reads a file extension. -/
def readExtension (value : Value) : Checked { t : Text // isExtension t = true } := do
  let t ← value.readText
  if h : isExtension t = true then return ⟨t, h⟩ else Checked.fail .malformedExtension

/-- Reads a convention. Every field is required. -/
def ofRecord (fields : List (Text × Value)) : Checked Convention :=
  let name (field : String) := Value.field fields field.toList readName
  let build (p v c m f : { t : Text // t ≠ [] }) (e : { t : Text // isExtension t = true })
      (s a : { t : Text // t ≠ [] }) : Convention :=
    ⟨p, v, c, m, f, e, s, a, p.2, v.2, c.2, m.2, f.2, e.2, s.2, a.2⟩
  Checked.apply (Checked.apply (Checked.apply (Checked.apply (Checked.apply (Checked.apply
    (Checked.apply (Checked.apply (.ok build)
      (name "protected_dir")) (name "views_dir")) (name "controllers_dir")) (name "modules_dir"))
      (name "framework_dir")) (Value.field fields "view_extension".toList readExtension))
      (name "controller_suffix")) (name "action_prefix")

/-- The convention of the environment, with overrides that are not null in place of its values. -/
def load (environment : List (Text × Text)) (overrides : List (Text × Value)) :
    Checked Convention :=
  let given := settings.map fun s =>
    (s.field, Value.text ((environment.lookup s.environment).getD s.stock))
  ofRecord (given ++ overrides.filter fun (_, value) => match value with
    | .null => false
    | _ => true)

end Convention
end YiiNavigator
