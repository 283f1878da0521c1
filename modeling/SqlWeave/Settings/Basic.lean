import SqlWeave.Environment
import SqlWeave.QueryError.Basic
import SqlWeave.Text.Blank
import SqlWeave.Text.Case

/-!
# Settings of a composer

The schema of every table, the treatment of malformed values, and the keyword by which a cell of a
batch asks for the default of its column.
-/
namespace SqlWeave

inductive Mode where
  /-- They are rejected. -/
  | strict
  /-- They are bound as parameters. -/
  | permissive
deriving DecidableEq, Repr

namespace Mode

def name : Mode → String
  | .strict => "strict"
  | .permissive => "permissive"

def ofName? (name : String) : Option Mode := [strict, permissive].find? fun mode => mode.name = name

/-- Reads a name in any case, with blanks around it. -/
def read? (text : String) : Option Mode :=
  ofName? (String.ofList (Text.foldCase (Text.trim text.toList)))

end Mode

structure Settings where
  /-- Table names are qualified with this name. -/
  schema : String
  mode : Mode
  /-- Raw text that a cell of a batch may hold, in any case. -/
  defaultKeyword : String
deriving DecidableEq, Repr

/-- Why there are no settings to work with. -/
inductive SettingsError where
  /-- The file that holds them is malformed, or holds something else in their place. -/
  | malformedFile
  /-- A variable names no mode. -/
  | unknownMode (name text : String)
  | emptySchema
  | nulInSchema
  | notAKeyword (text : String)
deriving DecidableEq, Repr

namespace SettingsError

/-- A setting and what is wrong with it. -/
def settingMessage (key problem : String) : String :=
  "Invalid setting '" ++ key ++ "': " ++ problem

def message : SettingsError → String
  | .malformedFile => "Invalid TOML"
  | .unknownMode name text =>
    "Invalid environment variable '" ++ name ++
      "': expected 'strict' or 'permissive', got '" ++ text ++ "'"
  | .emptySchema => settingMessage "schema" "schema name cannot be empty"
  | .nulInSchema => settingMessage "schema" "schema name cannot contain NUL"
  | .notAKeyword text =>
    settingMessage "default_keyword" ("'" ++ text ++ "' is not a bare SQL keyword")

/-- The error for callers that run queries. -/
def toQueryError (error : SettingsError) : QueryError :=
  (QueryError.of (.configuration error.message)).withSource

end SettingsError

namespace Settings

/-- Tables of the schema `public`, malformed values rejected. -/
def standard : Settings := ⟨"public", .strict, "DEFAULT"⟩

/-- A bare keyword: ASCII letters only, and at least one. -/
def isKeyword (text : String) : Bool :=
  match text.toList with
  | [] => false
  | letters => letters.all Char.isAlpha

/-- The first thing that is wrong with the settings. -/
def problem? (settings : Settings) : Option SettingsError :=
  if (Text.trim settings.schema.toList).isEmpty then some .emptySchema
  else if settings.schema.toList.contains '\x00' then some .nulInSchema
  else if !isKeyword settings.defaultKeyword then some (.notAKeyword settings.defaultKeyword)
  else none

/-- The settings, if nothing is wrong with them. -/
def checked (settings : Settings) : Except SettingsError Settings :=
  match settings.problem? with
  | some problem => .error problem
  | none => .ok settings

def schemaVariable : String := "TAGSQL_SCHEMA"

def modeVariable : String := "TAGSQL_MODE"

def keywordVariable : String := "TAGSQL_DEFAULT_KEYWORD"

/-- The mode that the environment asks for. -/
def modeOf (env : Environment) : Except SettingsError Mode :=
  match env modeVariable with
  | none => .ok standard.mode
  | some text =>
    match Mode.read? text with
    | some mode => .ok mode
    | none => .error (.unknownMode modeVariable text)

/-- The settings of an environment; a variable that is not set leaves the standard. -/
def ofEnvironment (env : Environment) : Except SettingsError Settings := do
  let mode ← modeOf env
  checked ⟨(env schemaVariable).getD standard.schema, mode,
    (env keywordVariable).getD standard.defaultKeyword⟩

end Settings

end SqlWeave
