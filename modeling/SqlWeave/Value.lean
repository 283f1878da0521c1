import SqlWeave.Statement

/-!
# Values of a template

A value stands between two segments of a template. What becomes of it depends on its kind, and for
strings on the segment in front of it.
-/
namespace SqlWeave

inductive Value where
  /-- Data, bound as a parameter; a string in a table slot is a table name. -/
  | plain (scalar : Scalar)
  /-- A table name, qualified with the schema. -/
  | table (name : String)
  /-- A statement that becomes a part of the text. -/
  | nested (statement : Statement)
  /-- Trusted SQL text. -/
  | raw (text : String)
  /-- Rows of a list of value tuples. -/
  | batch (rows : List (List Value))
deriving Inhabited

namespace Value

/-- The name of the kind of a value. -/
def kind : Value → String
  | .plain _ => "plain"
  | .table _ => "table"
  | .nested _ => "nested"
  | .raw _ => "raw"
  | .batch _ => "batch"

mutual

/--
A value as one parameter: names and texts are strings, a statement is its text, a batch is a list
of lists.
-/
def toScalar : Value → Scalar
  | .plain scalar => scalar
  | .table name => .string name
  | .nested statement => .string statement.text
  | .raw text => .string text
  | .batch rows => .list (rowScalars rows)

def rowScalars : List (List Value) → List Scalar
  | [] => []
  | row :: rows => .list (cellScalars row) :: rowScalars rows

def cellScalars : List Value → List Scalar
  | [] => []
  | cell :: cells => toScalar cell :: cellScalars cells

end

end Value

end SqlWeave
