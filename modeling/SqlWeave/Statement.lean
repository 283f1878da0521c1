import SqlWeave.Scalar.Basic
import SqlWeave.Text.Utf8

/-!
# Statements

A statement is a text in which placeholders such as `$1` refer to values by number. It keeps the
position of every placeholder, so that a statement can be inlined into another one without reading
its text again: dollar signs in literals and fragments are never taken for placeholders.
-/
namespace SqlWeave

/-- Where the text of a statement refers to a value. -/
structure Placeholder where
  /-- The byte at which the dollar sign stands. -/
  start : Nat
  /-- The byte after the last digit. -/
  stop : Nat
  /-- The number of the value, counted from one. -/
  index : Nat
deriving DecidableEq, Repr

/-- A text, the values it refers to, and the places where it does. -/
structure Statement where
  text : String
  values : List Scalar
  placeholders : List Placeholder
  /-- A statement with a name may be prepared once and run many times. -/
  name : Option String
deriving Inhabited

namespace Statement

def empty : Statement := ⟨"", [], [], none⟩

/-- Text in which no dollar sign is a placeholder. -/
def literal (text : String) : Statement := ⟨text, [], [], none⟩

def named (s : Statement) (name : String) : Statement := { s with name := some name }

def paramCount (s : Statement) : Nat := s.values.length

def isEmpty (s : Statement) : Bool := s.text.isEmpty

/-- The numbers of the placeholders from left to right. -/
def indices (s : Statement) : List Nat := s.placeholders.map (·.index)

/-- Equality up to the comparison of doubles among the values. -/
def sameAs (s t : Statement) : Bool :=
  s.text = t.text && Scalar.sameItems s.values t.values && s.placeholders = t.placeholders
    && s.name = t.name

/-! ### Adopting a text -/

/--
The placeholders of a text that starts at the byte `position`: a dollar sign and all the digits
after it, if there are some and their number fits in 64 bits.
-/
def scan (position : Nat) : List Char → List Placeholder
  | [] => []
  | c :: text =>
    if c = '$' then
      let digits := text.takeWhile Char.isDigit
      let stop := position + 1 + digits.length
      let found := (Text.readDecimal? digits).filter (· < Text.wordCount)
      (found.map fun index => (⟨position, stop, index⟩ : Placeholder)).toList ++
        scan stop (text.drop digits.length)
    else scan (position + c.utf8Size) text
termination_by text => text.length
decreasing_by all_goals simp; try omega

/-- Does the number refer to one of `count` values? -/
def refersTo (count index : Nat) : Bool := 1 ≤ index && index ≤ count

/-- Takes over a text with its placeholders; each of them has to refer to a value. -/
def adopt? (text : String) (values : List Scalar) : Option Statement :=
  let placeholders := scan 0 text.toList
  if placeholders.all fun p => refersTo values.length p.index then
    some ⟨text, values, placeholders, none⟩
  else none

/-! ### Building a text -/

def pushText (s : Statement) (text : String) : Statement := { s with text := s.text ++ text }

def token (index : Nat) : String := String.ofList ('$' :: Text.decimal index)

/-- Writes a placeholder and keeps its position. -/
def pushPlaceholder (s : Statement) (index : Nat) : Statement :=
  let text := s.text ++ token index
  { s with
    text
    placeholders := s.placeholders ++ [⟨s.text.utf8ByteSize, text.utf8ByteSize, index⟩] }

/-- Writes the placeholder of the next free number and adds its value. -/
def bind (s : Statement) (value : Scalar) : Statement :=
  { s.pushPlaceholder (s.values.length + 1) with values := s.values ++ [value] }

/-- A part of a statement: text as it stands, or a reference to a value. -/
inductive Piece where
  | text (text : List Char)
  | slot (index : Nat)
deriving DecidableEq, Repr

/-- Cuts a text that starts at the byte `position` at its placeholders. -/
def piecesFrom (position : Nat) (text : List Char) : List Placeholder → List Piece
  | [] => [.text text]
  | p :: placeholders =>
    let (before, rest) := Text.splitBytes (p.start - position) text
    let (_, after) := Text.splitBytes (p.stop - p.start) rest
    .text before :: .slot p.index :: piecesFrom p.stop after placeholders

/-- The statement as a sequence of texts and references. -/
def pieces (s : Statement) : List Piece := piecesFrom 0 s.text.toList s.placeholders

/-- Writes a piece; the numbers of references go up by `offset`. -/
def pushPiece (offset : Nat) (s : Statement) : Piece → Statement
  | .text text => s.pushText (String.ofList text)
  | .slot index => s.pushPlaceholder (index + offset)

/-- Writes the text of another statement and adds its values; its numbers follow the known ones. -/
def inline (s t : Statement) : Statement :=
  { t.pieces.foldl (pushPiece s.values.length) s with values := s.values ++ t.values }

/-- One statement after another with an operator between them. -/
def joinTwo (operator : String) (s t : Statement) : Statement :=
  ((empty.inline s).pushText operator).inline t

/-- Statements with an operator between each two; a single one stays as it is. -/
def join (operator : String) : List Statement → Statement
  | [] => empty
  | first :: others => others.foldl (joinTwo operator) first

end Statement

end SqlWeave
