import SqlWeave.Text.Alphanumeric
import SqlWeave.Text.Blank
import SqlWeave.Text.Case

/-!
# Table slots

Whether a string is data or a table name depends on the text in front of it. A table slot is the
place after a keyword such as `FROM`; `IS DISTINCT FROM` is a predicate and opens none.
-/
namespace SqlWeave

/-- What a segment does to its tables. -/
inductive Operation where
  | select | insert | update | delete
deriving DecidableEq, Repr

/-- The keyword that opens a table slot. -/
inductive TableSlot where
  | insertInto | deleteFrom | update | fromClause | joinClause | usingClause
deriving DecidableEq, Repr

namespace Operation

/-- Does the text hold the word, on its own or inside another one? -/
def mentions (word : List Char) : List Char → Bool
  | [] => word.isEmpty
  | c :: text => word.isPrefixOf (c :: text) || mentions word text

/-- How an operation is written in lower case. -/
def word : Operation → String
  | .select => "select"
  | .insert => "insert"
  | .update => "update"
  | .delete => "delete"

/-- The first operation, in the order of the type, that a segment mentions in whatever case. -/
def detect? (segment : String) : Option Operation :=
  let folded := Text.lowered segment
  [select, insert, update, delete].find? fun operation => mentions operation.word.toList folded

def isWrite (operation : Operation) : Bool := operation ≠ .select

end Operation

namespace TableSlot

def keyword : TableSlot → String
  | .insertInto => "INSERT INTO"
  | .deleteFrom => "DELETE FROM"
  | .update => "UPDATE"
  | .fromClause => "FROM"
  | .joinClause => "JOIN"
  | .usingClause => "USING"

/-- The write that the slot is for; the others only read their table. -/
def mutation? : TableSlot → Option Operation
  | .insertInto => some .insert
  | .update => some .update
  | .deleteFrom => some .delete
  | .fromClause | .joinClause | .usingClause => none

/-- All slots; of two keywords that end alike the longer one comes first. -/
def all : List TableSlot :=
  [insertInto, deleteFrom, update, fromClause, joinClause, usingClause]

/-- A character that joins a keyword after it into a longer identifier. -/
def continuesWord (c : Char) : Bool := Text.isAlphanumeric c || c = '_' || c = '"'

/-- The text ends with the word, and the word does not continue an identifier. -/
def endsWithWord (word text : List Char) : Bool :=
  word.reverse.isPrefixOf text.reverse &&
    !((text.reverse.drop word.length).head?.any continuesWord)

/-- The table slot that a segment ends with, blanks after it aside. -/
def detect? (segment : String) : Option TableSlot :=
  let folded := Text.foldCase (Text.trimEnd segment.toList)
  if endsWithWord "distinct from".toList folded then none
  else all.find? fun slot => endsWithWord (Text.lowered slot.keyword) folded

/-- A table in the slot is written when the segment's operation is a write. -/
def recordsWrite (slot : TableSlot) (segment : String) : Bool :=
  slot.mutation?.isSome && (Operation.detect? segment).any Operation.isWrite

end TableSlot

end SqlWeave
