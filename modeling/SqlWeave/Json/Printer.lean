import SqlWeave.Json.Basic
import SqlWeave.Number.Layout

/-!
# Writing JSON

Compact text: no blanks, the short escapes where there are some, other controls by number, and
every other character as it is.
-/
namespace SqlWeave.Json

/-- Doubles are written out from `1e-5` up to below `1e16`, with a fraction digit at least. -/
def doubleLayout : Number.Layout := ⟨-5, 15⟩

/-- The spelling of one character inside a string. -/
def escapedChar (c : Char) : List Char :=
  if c = '"' then ['\\', '"']
  else if c = '\\' then ['\\', '\\']
  else if c = '\x08' then ['\\', 'b']
  else if c = '\x0c' then ['\\', 'f']
  else if c = '\n' then ['\\', 'n']
  else if c = '\r' then ['\\', 'r']
  else if c = '\t' then ['\\', 't']
  else if c.toNat < 0x20 then ['\\', 'u'] ++ Text.hexPadded 4 c.toNat
  else [c]

def stringText (text : List Char) : List Char := '"' :: text.flatMap escapedChar ++ ['"']

/-- A double; one that is not finite is written as null. -/
def doubleText (x : Number.Double) : List Char :=
  if x.isFinite then doubleLayout.text x else "null".toList

def numeralText : Numeral → List Char
  | .int n => Text.decimalInt n
  | .float x => doubleText x

def boolText (b : Bool) : List Char := if b then "true".toList else "false".toList

mutual

def text : Json → List Char
  | .null => "null".toList
  | .bool b => boolText b
  | .number n => numeralText n
  | .string s => stringText s.toList
  | .array items => '[' :: itemsText items ++ [']']
  | .object fields => '\x7b' :: fieldsText fields ++ ['\x7d']

def itemsText : List Json → List Char
  | [] => []
  | [item] => text item
  | item :: next :: items => text item ++ ',' :: itemsText (next :: items)

/-- Names and values, a comma between each two fields. -/
def fieldsText : List (String × Json) → List Char
  | [] => []
  | [(name, value)] => stringText name.toList ++ ':' :: text value
  | (name, value) :: next :: fields =>
    stringText name.toList ++ ':' :: text value ++ ',' :: fieldsText (next :: fields)

end

/-- A character by its UTF-16 code units. -/
def escapedUnits (c : Char) : List Char :=
  let unit (n : Nat) : List Char := ['\\', 'u'] ++ Text.hexPadded 4 n
  if c.toNat < 0x10000 then unit c.toNat
  else
    let above := c.toNat - 0x10000
    unit (0xD800 + above / 0x400) ++ unit (0xDC00 + above % 0x400)

/-- The compact text in ASCII; all other characters are escaped, which stand in strings only. -/
def asciiText (document : Json) : List Char :=
  document.text.flatMap fun c => if c.toNat < 0x80 then [c] else escapedUnits c

end SqlWeave.Json
