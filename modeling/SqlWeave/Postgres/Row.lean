import SqlWeave.Postgres.Server
import SqlWeave.Text.Case

/-!
# Rows

A row holds a cell for each column of its statement. Columns are found by name, and their cells
are read by decoders, each for the types that it accepts.
-/
namespace SqlWeave.Postgres

structure Row where
  columns : List Column
  cells : List Cell
deriving DecidableEq, Repr

/-- Reads cells of certain types; null is a cell of its own. -/
structure Decoder (α : Type) where
  accepts : ServerType → Bool
  read? : Cell → Option α

namespace Decoder

def int64 : Decoder Int64 where
  accepts type := type = .base .int8
  read? cell := do
    let bytes ← cell
    if bytes.length = 8 then some (UInt64.ofNat (Bytes.ofBigEndian bytes)).toInt64 else none

def int32 : Decoder Int32 where
  accepts type := type = .base .int4
  read? cell := do
    let bytes ← cell
    if bytes.length = 4 then some (UInt32.ofNat (Bytes.ofBigEndian bytes)).toInt32 else none

/-- One byte; all but zero is true. -/
def bool : Decoder Bool where
  accepts type := type = .base .bool
  read? cell := do
    match ← cell with
    | [b] => some (b ≠ 0)
    | _ => none

def text : Decoder String where
  accepts
    | .base type => Carrier.text.accepts type
    | .array _ => false
  read? cell := cell.bind Text.ofUtf8?

/-- The same with null as nothing. -/
def optional (decoder : Decoder α) : Decoder (Option α) where
  accepts := decoder.accepts
  read?
    | none => some none
    | some bytes => (decoder.read? (some bytes)).map some

end Decoder

namespace Row

/-- The place of a column: the first one of exactly this name, else in another case. -/
def find? (row : Row) (name : String) : Option Nat :=
  (row.columns.findIdx? fun column => column.name = name).or
    (row.columns.findIdx? fun column => Text.sameWord column.name name)

inductive Problem where
  | missing
  | unreadable (place : Nat)

def Problem.toFailure (problem : Problem) (name : String) : Failure :=
  .conversion <| "column '" ++ name ++ "': " ++ match problem with
    | .missing => "invalid column `" ++ name ++ "`"
    | .unreadable place => "error deserializing column " ++ toString place

def read? (row : Row) (decoder : Decoder α) (place : Nat) : Option α := do
  let column ← row.columns[place]?
  if decoder.accepts column.type then decoder.read? (row.cells[place]?).join else none

def column (row : Row) (decoder : Decoder α) (name : String) : Except Failure α :=
  match row.find? name with
  | none => .error (Problem.missing.toFailure name)
  | some place =>
    match row.read? decoder place with
    | some a => .ok a
    | none => .error ((Problem.unreadable place).toFailure name)

end Row

end SqlWeave.Postgres
