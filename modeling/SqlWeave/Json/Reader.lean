import SqlWeave.Json.Basic
import SqlWeave.Text.Decimal

/-!
# Reading JSON

A text is first read into a tree in which numbers are still as written and the fields of an object
still in the order of the text, repetitions included. The tree is then turned into a document,
where numbers get their values, fields their order, and nesting has a limit.
-/
namespace SqlWeave.Json

/-- A number as it is written. -/
structure Lexeme where
  negative : Bool
  whole : List Char
  fraction : Option (List Char)
  exponent : Option Int
deriving DecidableEq, Repr

/-- A JSON text, read but not yet valued. -/
inductive Tree where
  | null
  | bool (b : Bool)
  | number (l : Lexeme)
  /-- A string; one in which half of a surrogate pair is missing stands for no text. -/
  | string (s : Option String)
  | array (items : List Tree)
  | object (fields : List (Option String × Tree))
deriving Repr, Inhabited

/-! ### Lexemes -/

def isSpace (c : Char) : Bool := c = ' ' || c = '\t' || c = '\n' || c = '\r'

def skipSpace (text : List Char) : List Char := text.dropWhile isSpace

/-- The code unit of four hexadecimal digits. -/
def codeUnit? (a b c d : Char) : Option Nat := Text.readHex? [a, b, c, d]

/-- The first half of a surrogate pair. -/
def isHighSurrogate (unit : Nat) : Bool := 0xD800 ≤ unit && unit < 0xDC00

def isLowSurrogate (unit : Nat) : Bool := 0xDC00 ≤ unit && unit < 0xE000

def ofSurrogates (high low : Nat) : Char :=
  Char.ofNat (0x10000 + (high - 0xD800) * 0x400 + (low - 0xDC00))

def shortEscape? (c : Char) : Option Char :=
  match c with
  | '"' => some '"'
  | '\\' => some '\\'
  | '/' => some '/'
  | 'b' => some '\x08'
  | 'f' => some '\x0c'
  | 'n' => some '\n'
  | 'r' => some '\r'
  | 't' => some '\t'
  | _ => none

/-- The low surrogate that a text starts with, as a numeric escape. -/
def lowSurrogate? : List Char → Option (Nat × List Char)
  | '\\' :: 'u' :: a :: b :: c :: d :: rest =>
    ((codeUnit? a b c d).filter isLowSurrogate).map (·, rest)
  | _ => none

/--
One character of a string, escaped or not, and the text after it; half of a surrogate pair is no
character.
-/
def readCharacter? : List Char → Option (Option Char × List Char)
  | '\\' :: 'u' :: a :: b :: c :: d :: rest => do
    let unit ← codeUnit? a b c d
    if isHighSurrogate unit then
      match lowSurrogate? rest with
      | some (low, rest) => some (some (ofSurrogates unit low), rest)
      | none => some (none, rest)
    else if isLowSurrogate unit then some (none, rest)
    else some (some (Char.ofNat unit), rest)
  | '\\' :: c :: rest => (shortEscape? c).map fun c => (some c, rest)
  | c :: rest => if c = '"' ∨ c = '\\' ∨ c.toNat < 0x20 then none else some (some c, rest)
  | [] => none

/-- The rest of a string up to its closing quote; `fuel` bounds the characters. -/
def readStringBody? : Nat → List Char → Option (List (Option Char) × List Char)
  | 0, _ => none
  | fuel + 1, text =>
    match text with
    | '"' :: rest => some ([], rest)
    | _ => do
      let (c, rest) ← readCharacter? text
      let (cs, rest) ← readStringBody? fuel rest
      some (c :: cs, rest)

def readString? (text : List Char) : Option (Option String × List Char) :=
  (readStringBody? (text.length + 1) text).map fun (cs, rest) =>
    ((cs.mapM id).map String.ofList, rest)

def readDigits? (text : List Char) : Option (List Char × List Char) :=
  match text.takeWhile Char.isDigit with
  | [] => none
  | digits => some (digits, text.dropWhile Char.isDigit)

/-- Digits before the point: no zero in front of others. -/
def readWhole? (text : List Char) : Option (List Char × List Char) := do
  let (digits, rest) ← readDigits? text
  if 1 < digits.length ∧ digits.head? = some '0' then none else some (digits, rest)

/-- A point and the digits after it, if there is one. -/
def readFraction? (text : List Char) : Option (Option (List Char) × List Char) :=
  match text with
  | '.' :: rest => (readDigits? rest).map fun (digits, rest) => (some digits, rest)
  | _ => some (none, text)

def readExponent? (text : List Char) : Option (Option Int × List Char) :=
  match text with
  | c :: rest =>
    if c = 'e' ∨ c = 'E' then
      let (negative, rest) := match rest with
        | '-' :: rest => (true, rest)
        | '+' :: rest => (false, rest)
        | _ => (false, rest)
      (readDigits? rest).map fun (digits, rest) =>
        let value : Int := Text.decimalValue digits
        (some (if negative then -value else value), rest)
    else some (none, text)
  | [] => some (none, [])

/-- A number, as far as it goes. -/
def readNumber? (text : List Char) : Option (Lexeme × List Char) := do
  let (negative, rest) := match text with
    | '-' :: rest => (true, rest)
    | _ => (false, text)
  let (whole, rest) ← readWhole? rest
  let (fraction, rest) ← readFraction? rest
  let (exponent, rest) ← readExponent? rest
  some (⟨negative, whole, fraction, exponent⟩, rest)

def readWord? (word : List Char) (text : List Char) : Option (List Char) :=
  if word.isPrefixOf text then some (text.drop word.length) else none

/-! ### Trees -/

mutual

/-- A value and the text after it. -/
def readTree? : Nat → List Char → Option (Tree × List Char)
  | 0, _ => none
  | fuel + 1, text =>
    match skipSpace text with
    | '"' :: rest => (readString? rest).map fun (s, rest) => (.string s, rest)
    | '[' :: rest =>
      match skipSpace rest with
      | ']' :: rest => some (.array [], rest)
      | _ => (readItems? fuel rest).map fun (items, rest) => (.array items, rest)
    | '\x7b' :: rest =>
      match skipSpace rest with
      | '\x7d' :: rest => some (.object [], rest)
      | _ => (readFields? fuel rest).map fun (fields, rest) => (.object fields, rest)
    | 'n' :: rest => (readWord? "ull".toList rest).map fun rest => (.null, rest)
    | 't' :: rest => (readWord? "rue".toList rest).map fun rest => (.bool true, rest)
    | 'f' :: rest => (readWord? "alse".toList rest).map fun rest => (.bool false, rest)
    | text => (readNumber? text).map fun (l, rest) => (.number l, rest)

/-- The items of an array up to its closing bracket. -/
def readItems? : Nat → List Char → Option (List Tree × List Char)
  | 0, _ => none
  | fuel + 1, text => do
    let (item, rest) ← readTree? fuel text
    match skipSpace rest with
    | ']' :: rest => some ([item], rest)
    | ',' :: rest =>
      let (items, rest) ← readItems? fuel rest
      some (item :: items, rest)
    | _ => none

/-- The fields of an object up to its closing brace. -/
def readFields? : Nat → List Char → Option (List (Option String × Tree) × List Char)
  | 0, _ => none
  | fuel + 1, text =>
    match skipSpace text with
    | '"' :: rest => do
      let (name, rest) ← readString? rest
      match skipSpace rest with
      | ':' :: rest =>
        let (value, rest) ← readTree? fuel rest
        match skipSpace rest with
        | '\x7d' :: rest => some ([(name, value)], rest)
        | ',' :: rest =>
          let (fields, rest) ← readFields? fuel rest
          some ((name, value) :: fields, rest)
        | _ => none
      | _ => none
    | _ => none

end

/-- The tree of a whole text; each step of the reader takes at least one character. -/
def Tree.read? (text : List Char) : Option Tree := do
  let (tree, rest) ← readTree? (2 * text.length + 2) text
  if skipSpace rest = [] then some tree else none

/-! ### Values -/

def maxWord : Nat := 0xFFFFFFFFFFFFFFFF

/--
Takes digits into a significand as long as it fits in 64 bits, and returns it with the number of
digits that were taken.
-/
def takeSignificand : Nat → List Char → Nat × Nat
  | significand, [] => (significand, 0)
  | significand, c :: digits =>
    let longer := significand * 10 + Text.digitValue c
    if longer ≤ maxWord then
      let (total, taken) := takeSignificand longer digits
      (total, taken + 1)
    else (significand, 0)

/-- The double nearest to a power of ten. -/
def powerOfTen (n : Nat) : Number.Double := .ofInt (Nat.pow 10 n)

/-- Divides by `10 ^ 308` until the exponent is within reach of one division. -/
def scaleDown : Nat → Number.Double → Int → Number.Double
  | 0, x, _ => x
  | fuel + 1, x, exponent =>
    if x.isZero then x
    else if -308 ≤ exponent then x.divMagnitude (powerOfTen exponent.natAbs)
    else scaleDown fuel (x.divMagnitude (powerOfTen 308)) (exponent + 308)

/--
The magnitude `significand * 10 ^ exponent`: the significand is rounded to a double, which is then
multiplied or divided by a power of ten. A magnitude beyond the doubles has no value.
-/
def scaled? (significand : Nat) (exponent : Int) : Option Number.Double :=
  let x := Number.Double.ofInt significand
  if exponent < 0 then some (scaleDown 4 x exponent)
  else if exponent ≤ 308 then
    let product := x.mulMagnitude (powerOfTen exponent.natAbs)
    if product.isFinite then some product else none
  else if x.isZero then some x else none

/-- The value of a number with a point, an exponent or more digits than 64 bits hold. -/
def Lexeme.double? (l : Lexeme) : Option Number.Double := do
  let (significand, taken) := takeSignificand 0 l.whole
  let dropped := l.whole.length - taken
  let (significand, places) := takeSignificand significand (l.fraction.getD [])
  let magnitude ← scaled? significand (dropped - places + l.exponent.getD 0)
  some (if l.negative then magnitude.neg else magnitude)

/-- Whole numbers of 64 bits keep their value; minus zero and everything else is a double. -/
def Lexeme.numeral? (l : Lexeme) : Option Numeral :=
  let value := Text.decimalValue l.whole
  if l.fraction = none ∧ l.exponent = none ∧ value ≤ maxWord then
    if !l.negative then some (.int value)
    else if 0 < value ∧ value ≤ 0x8000000000000000 then some (.int (-value))
    else some (.float (Number.Double.ofInt value).neg)
  else l.double?.map .float

mutual

/-- The document of a tree in which arrays and objects are nested at most `depth` deep. -/
def ofTree? (depth : Nat) : Tree → Option Json
  | .null => some .null
  | .bool b => some (.bool b)
  | .number l => l.numeral?.map .number
  | .string s => s.map .string
  | .array items =>
    match depth with
    | 0 => none
    | depth + 1 => (ofItems? depth items).map .array
  | .object fields =>
    match depth with
    | 0 => none
    | depth + 1 => (ofTreeFields? depth fields).map ofFields

def ofItems? (depth : Nat) : List Tree → Option (List Json)
  | [] => some []
  | item :: items => do
    let item ← ofTree? depth item
    let items ← ofItems? depth items
    some (item :: items)

def ofTreeFields? (depth : Nat) : List (Option String × Tree) → Option (List (String × Json))
  | [] => some []
  | (name, value) :: fields => do
    let name ← name
    let value ← ofTree? depth value
    let fields ← ofTreeFields? depth fields
    some ((name, value) :: fields)

end

/-- Arrays and objects may be nested this deep. -/
def maxDepth : Nat := 127

def read? (text : String) : Option Json := do
  ofTree? maxDepth (← Tree.read? text.toList)

end SqlWeave.Json
