import SqlWeave.Settings.Basic
import SqlWeave.Toml.Reader

/-!
# Settings as TOML

The settings are the fields of the table `composer`; what is missing is as in the standard settings,
and fields of other names are passed over. An array in place of the table holds the settings in
their order, and a date holds none of them.
-/
namespace SqlWeave.Settings

def textOfToml? : Toml → Option String
  | .string s => some s
  | _ => none

/-- An array or a table with nothing in it. -/
def holdsNothing : Toml → Bool
  | .array items => items.isEmpty
  | .tables items => items.isEmpty
  | .table _ fields => fields.isEmpty
  | _ => false

/--
A mode: its name, or a table whose field has that name and holds nothing. Between braces the field
is the only one, else it is the first.
-/
def modeOfToml? : Toml → Option Mode
  | .string s => Mode.ofName? s
  | .table origin ((name, value) :: others) =>
    if (origin.isInline ∧ others ≠ []) ∨ !holdsNothing value then none else Mode.ofName? name
  | _ => none

def orStandard? (read? : Toml → Option α) (standard : α) : Option Toml → Option α
  | none => some standard
  | some value => read? value

/-- Three settings, each of which may be missing. -/
def ofValues? (schema mode keyword : Option Toml) : Option Settings := do
  some ⟨← orStandard? textOfToml? standard.schema schema,
    ← orStandard? modeOfToml? standard.mode mode,
    ← orStandard? textOfToml? standard.defaultKeyword keyword⟩

def ofToml? : Toml → Option Settings
  | .table _ fields =>
    ofValues? (fields.lookup "schema") (fields.lookup "mode") (fields.lookup "default_keyword")
  | .array items => ofValues? items[0]? items[1]? items[2]?
  | .tables items => ofValues? items[0]? items[1]? items[2]?
  | .date => some standard
  | _ => none

/-- The settings of a TOML text, in order or not. -/
def ofDocument? (text : String) : Option Settings := do
  orStandard? ofToml? standard ((← Toml.read? text).lookup "composer")

/-- The settings of a TOML text, if they are in order. -/
def readToml (text : String) : Except SettingsError Settings :=
  match ofDocument? text with
  | some settings => settings.checked
  | none => .error .malformedFile

end SqlWeave.Settings
