import SqlWeave.Identifier
import SqlWeave.QueryError.Basic
import SqlWeave.Value

/-!
# Fragments of declared names

Names of columns cannot be parameters. The fragments here are SQL text made of names that a table
declares, so that they can stand in a template as raw text.
-/
namespace SqlWeave

/-- A table and the columns it is known to have, each once. -/
structure TableSchema where
  name : String
  columns : List String
  nodup : columns.Nodup

namespace TableSchema

theorem nodup_eraseDups (names : List String) : names.eraseDups.Nodup := by
  -- The head is taken out of the tail before the tail's own repetitions, so the length decreases.
  match names with
  | [] => exact List.nodup_nil
  | name :: names =>
    have absent : name ∉ (names.filter fun other => !other == name).eraseDups := by
      simp [List.mem_eraseDups]
    rw [List.eraseDups_cons]
    exact List.nodup_cons.mpr ⟨absent, nodup_eraseDups _⟩
termination_by names.length
decreasing_by exact Nat.lt_succ_of_le (List.length_filter_le _ _)

/-- Declares a table; a repeated column counts once, at its first place. -/
def declare (name : String) (columns : List String) : TableSchema :=
  ⟨name, columns.eraseDups, nodup_eraseDups columns⟩

def hasColumn (table : TableSchema) (column : String) : Bool := table.columns.contains column

/-- The error for a column that the table does not declare. -/
def unknownColumn (table : TableSchema) (column : String) : QueryError :=
  (QueryError.of (.untrustedIdentifier "column" column)).withTable table.name

/-- The requested columns, or all of them if none is requested. -/
def resolve (table : TableSchema) (columns : List String) : Except QueryError (List String) :=
  if columns.isEmpty then .ok table.columns
  else match columns.find? fun column => !table.hasColumn column with
    | some column => .error (table.unknownColumn column)
    | none => .ok columns

end TableSchema

/-- Parts with a comma and a space between each two. -/
def commaSeparated (parts : List String) : String := ", ".intercalate parts

def columnOf (table column : String) : String :=
  Identifier.quote table ++ "." ++ Identifier.quote column

def selectColumns (table : TableSchema) (columns : List String) : Except QueryError Value :=
  (table.resolve columns).map fun names =>
    .raw (commaSeparated (names.map Identifier.quote))

/-- A list of columns, each with its table. -/
def qualifiedColumns (table : TableSchema) (columns : List String) : Except QueryError Value :=
  (table.resolve columns).map fun names =>
    .raw (commaSeparated (names.map (columnOf table.name)))

/-- The first value of a field among the tables that have it, under the field's name. -/
def coalesceField (tables : List TableSchema) (field : String) : Except QueryError String :=
  match tables.filter (·.hasColumn field) with
  | [] => .error (QueryError.of (.untrustedIdentifier "field" field))
  | sources =>
    .ok ("COALESCE(" ++ commaSeparated (sources.map fun table => columnOf table.name field) ++
      ") AS " ++ Identifier.quote field)

/-- A list of fields, each taken from the first of its tables that has a value. -/
def coalesceFields (tables : List TableSchema) (fields : List String) :
    Except QueryError Value := do
  .ok (.raw (commaSeparated (← fields.mapM (coalesceField tables))))

/-- The types that a value may be cast to. -/
inductive CastType where
  | text | integer | bigInt | numeric | boolean | uuid | timestamptz | jsonb
  | textArray | uuidArray | bigIntArray
deriving DecidableEq, Repr

def CastType.sql : CastType → String
  | .text => "text"
  | .integer => "integer"
  | .bigInt => "bigint"
  | .numeric => "numeric"
  | .boolean => "boolean"
  | .uuid => "uuid"
  | .timestamptz => "timestamptz"
  | .jsonb => "jsonb"
  | .textArray => "text[]"
  | .uuidArray => "uuid[]"
  | .bigIntArray => "bigint[]"

/-- A cast, to be put after a parameter. -/
def cast (type : CastType) : Value := .raw ("::" ++ type.sql)

inductive Comparison where
  | equal | notEqual | less | lessEqual | greater | greaterEqual | iLike | distinctFrom
deriving DecidableEq, Repr

def Comparison.sql : Comparison → String
  | .equal => "="
  | .notEqual => "<>"
  | .less => "<"
  | .lessEqual => "<="
  | .greater => ">"
  | .greaterEqual => ">="
  | .iLike => "ILIKE"
  | .distinctFrom => "IS DISTINCT FROM"

def comparison (operator : Comparison) : Value := .raw operator.sql

inductive SortOrder where
  | ascending | descending
deriving DecidableEq, Repr

def SortOrder.sql : SortOrder → String
  | .ascending => "ASC"
  | .descending => "DESC"

/-- A column to sort by. -/
def orderBy (table : TableSchema) (column : String) (order : SortOrder) :
    Except QueryError Value :=
  if table.hasColumn column then .ok (.raw (Identifier.quote column ++ " " ++ order.sql))
  else .error (table.unknownColumn column)

end SqlWeave
