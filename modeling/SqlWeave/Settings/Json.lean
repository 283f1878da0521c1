import SqlWeave.Json.Printer
import SqlWeave.Json.Reader
import SqlWeave.Settings.Basic

/-!
# Settings as JSON

An object with a field for each setting, or an array of the settings in their order; what is
missing is as in the standard settings. Fields of other names are passed over. Reading does not
check that the settings are in order.
-/
namespace SqlWeave.Settings

def schemaField : String := "schema"

def modeField : String := "mode"

def keywordField : String := "default_keyword"

def jsonText (settings : Settings) : String :=
  String.ofList <| Json.text <| .object
    [(schemaField, .string settings.schema), (modeField, .string settings.mode.name),
      (keywordField, .string settings.defaultKeyword)]

def textOf? : Json.Tree → Option String
  | .string s => s
  | _ => none

/-- A mode: its name, or an object whose only field has that name and no value. -/
def modeOf? : Json.Tree → Option Mode
  | .string s => s.bind Mode.ofName?
  | .object [(name, .null)] => name.bind Mode.ofName?
  | _ => none

def optional? (read? : Json.Tree → Option α) (standard : α) : Option Json.Tree → Option α
  | none => some standard
  | some tree => read? tree

/-- Three settings, each of which may be missing. -/
def ofTrees? (schema mode keyword : Option Json.Tree) : Option Settings := do
  some ⟨← optional? textOf? standard.schema schema, ← optional? modeOf? standard.mode mode,
    ← optional? textOf? standard.defaultKeyword keyword⟩

/-- The value of the only field of a name, if there is one; two of them are an error. -/
def onlyField? (fields : List (Option String × Json.Tree)) (name : String) :
    Option (Option Json.Tree) :=
  match fields.filter fun field => field.1 = some name with
  | [] => some none
  | [field] => some (some field.2)
  | _ => none

def ofTreeFields? (fields : List (Option String × Json.Tree)) : Option Settings := do
  let schema ← onlyField? fields schemaField
  let mode ← onlyField? fields modeField
  let keyword ← onlyField? fields keywordField
  if fields.all fun field => field.1.isSome then ofTrees? schema mode keyword else none

def ofTree? : Json.Tree → Option Settings
  | .object fields => ofTreeFields? fields
  | .array items =>
    if items.length ≤ 3 then ofTrees? items[0]? items[1]? items[2]? else none
  | _ => none

def readJson? (text : String) : Option Settings := do
  ofTree? (← Json.Tree.read? text.toList)

end SqlWeave.Settings
