import SqlWeave.Postgres.Encoding
import SqlWeave.Postgres.Failure

/-!
# The server as its clients see it

A server answers requests, and each answer may depend on all requests so far. Connections and
prepared statements go by number.
-/
namespace SqlWeave.Postgres

/-- The binary form of a value, or nothing for null. -/
abbrev Cell := Option (List UInt8)

structure Column where
  name : String
  type : ServerType
deriving DecidableEq, Repr

inductive Request where
  | connect (connection : Nat) (parameters : List (String × String))
  | prepare (connection handle : Nat) (sql : String)
  | execute (connection handle : Nat) (params : List Cell)
deriving DecidableEq, Repr

/-- An answer, a refusal, or the end of the connection. -/
inductive Reply (α : Type) where
  | answer (a : α)
  | refused (error : ServerError)
  | lost

/-- What the server reports of a prepared statement. -/
structure Description where
  types : List ServerType
  columns : List Column

/-- What an execution gives: the rows, and a tag that says what was done. -/
structure Outcome where
  rows : List (List Cell)
  tag : String

/-- The answers to the last of the requests so far. -/
structure Server where
  connect : List Request → Reply Unit
  prepare : List Request → Reply Description
  execute : List Request → Reply Outcome

/-- The number of rows that a tag reports: its last word, if that is a number. -/
def affectedRows (tag : String) : Nat :=
  let word := (tag.toList.reverse.takeWhile (· ≠ ' ')).reverse
  (Text.readWord64? word).getD 0

end SqlWeave.Postgres
