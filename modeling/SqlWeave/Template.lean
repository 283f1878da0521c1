import SqlWeave.Value

/-!
# Templates

A template is literal text with values in it: segments and values take turns, and a segment stands
at both ends. It can be given in parts, built step by step, or written as one format text.
-/
namespace SqlWeave

/-- Segments and values; composing needs one segment more than values. -/
structure Template where
  segments : List String
  values : List Value
deriving Inhabited

namespace Template

def empty : Template := ⟨[], []⟩

def literal (text : String) : Template := ⟨[text], []⟩

/-- There is one segment more than values. -/
def isWellFormed (t : Template) : Bool := t.segments.length = t.values.length + 1

/-! ### Format texts -/

/-- Puts a character in front of the first segment. -/
def consFirst (c : Char) : List (List Char) → List (List Char)
  | [] => [[c]]
  | segment :: segments => (c :: segment) :: segments

/--
Cuts a format text at its holes. A hole is a pair of braces outside a literal in single quotes; a
doubled brace stands for one brace everywhere.
-/
def splitHoles (inLiteral : Bool) : List Char → List (List Char)
  | '\x7b' :: '\x7b' :: text => consFirst '\x7b' (splitHoles inLiteral text)
  | '\x7d' :: '\x7d' :: text => consFirst '\x7d' (splitHoles inLiteral text)
  | '\x7b' :: '\x7d' :: text =>
    if inLiteral then consFirst '\x7b' (splitHoles inLiteral ('\x7d' :: text))
    else [] :: splitHoles inLiteral text
  | '\'' :: text => consFirst '\'' (splitHoles (!inLiteral) text)
  | c :: text => consFirst c (splitHoles inLiteral text)
  | [] => [[]]
termination_by text => text.length

/-- The template of a format text and the values for its holes. -/
def ofFormat (format : String) (values : List Value) : Template :=
  ⟨(splitHoles false format.toList).map String.ofList, values⟩

/-! ### Building step by step -/

/-- A template under construction: each value with the segment before it, and the last segment. -/
structure Builder where
  closed : List (String × Value)
  current : String

namespace Builder

def empty : Builder := ⟨[], ""⟩

def sql (b : Builder) (text : String) : Builder := { b with current := b.current ++ text }

/-- Closes the last segment with a value and starts the next one. -/
def value (b : Builder) (v : Value) : Builder := ⟨b.closed ++ [(b.current, v)], ""⟩

def sqlIf (b : Builder) (condition : Bool) (text : String) : Builder :=
  if condition then b.sql text else b

/-- Appends text and a value under a condition. -/
def bindIf (b : Builder) (condition : Bool) (text : String) (v : Value) : Builder :=
  if condition then (b.sql text).value v else b

def table (b : Builder) (name : String) : Builder := b.value (.table name)

def nest (b : Builder) (statement : Statement) : Builder := b.value (.nested statement)

def raw (b : Builder) (text : String) : Builder := b.value (.raw text)

def batch (b : Builder) (rows : List (List Value)) : Builder := b.value (.batch rows)

def build (b : Builder) : Template := ⟨b.closed.map (·.1) ++ [b.current], b.closed.map (·.2)⟩

end Builder

end Template

end SqlWeave
