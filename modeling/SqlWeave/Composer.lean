import SqlWeave.ChangeSet
import SqlWeave.Identifier
import SqlWeave.Settings.Basic
import SqlWeave.TableSlot
import SqlWeave.Template

/-!
# Composing templates

A composer turns a template into a statement. Data becomes placeholders, table names become
qualified identifiers, nested statements are inlined with their numbers shifted, and batches become
lists of tuples. The number of the next placeholder is always one more than the number of values.
-/
namespace SqlWeave

/-- What a value is at its place in a template. -/
inductive Role where
  | parameter (scalar : Scalar)
  | tableName (slot : TableSlot) (name : String)
  | nested (statement : Statement)
  | raw (text : String)
  | batch (rows : List (List Value))
  | misplacedTable (name : String)

/--
The role of a value after a segment. Only tables and strings depend on the segment: in a table slot
both are table names, elsewhere a string is data and a table is misplaced.
-/
def Value.role (preceding : String) : Value → Role
  | .nested statement => .nested statement
  | .raw text => .raw text
  | .batch rows => .batch rows
  | .table name =>
    match TableSlot.detect? preceding with
    | some slot => .tableName slot name
    | none => .misplacedTable name
  | .plain (.string name) =>
    match TableSlot.detect? preceding with
    | some slot => .tableName slot name
    | none => .parameter (.string name)
  | .plain scalar => .parameter scalar

/-- Why a value was not rendered, and the statement up to it. -/
structure Rejection where
  cause : Cause
  rendered : Statement

/-- The error for the caller, with the text up to the rejected value. -/
def Rejection.toQueryError (rejection : Rejection) : QueryError :=
  (QueryError.of rejection.cause).withSql rejection.rendered.text

abbrev Rendering := Except Rejection Statement

/-- Renders items with a comma between each two. -/
def renderSeparated (render : Statement → α → Rendering) (s : Statement) : List α → Rendering
  | [] => .ok s
  | first :: others => do
    others.foldlM (fun s item => render (s.pushText ",") item) (← render s first)

namespace Settings

/-- Is the text the keyword for column defaults, in whatever case? -/
def asksForDefault (settings : Settings) (text : String) : Bool :=
  Text.sameWord text settings.defaultKeyword

/-- A malformed value: rejected in strict mode, one parameter in permissive mode. -/
def reject (settings : Settings) (s : Statement) (cause : Cause) (v : Value) : Rendering :=
  match settings.mode with
  | .strict => .error ⟨cause, s⟩
  | .permissive => .ok (s.bind v.toScalar)

/-- Renders a cell of a batch; raw text has to be the default keyword. -/
def renderCell (settings : Settings) (s : Statement) : Value → Rendering
  | .plain scalar => .ok (s.bind scalar)
  | .nested statement => .ok (s.inline statement)
  | .raw text =>
    if settings.asksForDefault text then .ok (s.pushText text)
    else settings.reject s (.unsafeBatchCell text settings.defaultKeyword) (.raw text)
  | .batch rows => settings.reject s .nestedBatch (.batch rows)
  | .table name => settings.reject s (.misplacedTable name) (.table name)

def renderRow (settings : Settings) (s : Statement) (row : List Value) : Rendering := do
  let s ← renderSeparated settings.renderCell (s.pushText "(") row
  .ok (s.pushText ")")

/-- The first row, counted from `i`, that is not `width` cells long. -/
def raggedRow? (width i : Nat) : List (List Value) → Option Cause
  | [] => none
  | row :: rows =>
    if row.length = width then raggedRow? width (i + 1) rows
    else some (.raggedBatch i width row.length)

/-- What is wrong with the shape of a batch: no cells at all, or rows of different lengths. -/
def shapeProblem? : List (List Value) → Option Cause
  | [] => some .emptyBatch
  | first :: rows => if first.isEmpty then some .emptyBatch else raggedRow? first.length 1 rows

/-- Renders a batch as tuples with a comma between each two. -/
def renderBatch (settings : Settings) (s : Statement) (rows : List (List Value)) : Rendering :=
  match shapeProblem? rows with
  | some cause => settings.reject s cause (.batch rows)
  | none => renderSeparated settings.renderRow s rows

def renderValue (settings : Settings) (preceding : String) (s : Statement) (v : Value) :
    Rendering :=
  match v.role preceding with
  | .parameter scalar => .ok (s.bind scalar)
  | .tableName _ name =>
    .ok { s with text := Identifier.pushQualified s.text settings.schema name }
  | .nested statement => .ok (s.inline statement)
  | .raw text => .ok (s.pushText text)
  | .batch rows => settings.renderBatch s rows
  | .misplacedTable name => settings.reject s (.misplacedTable name) (.table name)

/-- Renders values, each with the segment after it. -/
def renderAfter (settings : Settings) (preceding : String) (s : Statement) :
    List (Value × String) → Rendering
  | [] => .ok s
  | (v, segment) :: others => do
    let s ← settings.renderValue preceding s v
    settings.renderAfter segment (s.pushText segment) others

end Settings

/-- Settings that have been found to be in order. -/
structure Composer where
  settings : Settings
  inOrder : settings.problem? = none

namespace Composer

/-- A composer with these settings, if they are in order. -/
def new (settings : Settings) : Except SettingsError Composer :=
  match inOrder : settings.problem? with
  | some problem => .error problem
  | none => .ok ⟨settings, inOrder⟩

def standard : Composer := ⟨Settings.standard, by decide⟩

def ofEnvironment (env : Environment) : Except SettingsError Composer := do
  new (← Settings.ofEnvironment env)

def compose (composer : Composer) (t : Template) : Except QueryError Statement :=
  match t.segments with
  | first :: segments =>
    if segments.length = t.values.length then
      (composer.settings.renderAfter first (Statement.literal first)
        (t.values.zip segments)).mapError Rejection.toQueryError
    else arityError
  | [] => arityError
where
  arityError := .error <|
    (QueryError.of (.templateArity t.segments.length t.values.length)).withOperation
      "composing statement"

end Composer

/-- The table that a value after a segment has written, if it does. -/
def Value.writtenTable? (preceding : String) (v : Value) : Option String :=
  match v.role preceding with
  | .tableName slot name => if slot.recordsWrite preceding then some name else none
  | _ => none

/-- The tables that the statement of a template writes, in their order. -/
def Template.writtenTables (t : Template) : List String :=
  (t.segments.zip t.values).filterMap fun (preceding, v) => v.writtenTable? preceding

/-- Composes a template and records the tables it writes; a failure records nothing. -/
def Composer.composeTracked (composer : Composer) (changed : ChangeSet) (t : Template) :
    Except QueryError Statement × ChangeSet :=
  match composer.compose t with
  | .ok statement => (.ok statement, changed.insertAll t.writtenTables)
  | .error error => (.error error, changed)

end SqlWeave
