import SqlWeave.Text.Decimal
import SqlWeave.Time.Calendar
import SqlWeave.Toml.Basic

/-!
# Reading TOML

Version 1.0 of the language. Arrays and inline tables may be nested less than eighty deep, and a
key has fewer than eighty names.
-/
namespace SqlWeave.Toml

/-- A reader takes a beginning of the text and leaves the rest. -/
abbrev Reader (α : Type) := List Char → Option (α × List Char)

/-- Keys and nested values stay below this number of levels. -/
def maxLevels : Nat := 80

/-! ### Blanks and lines -/

def isBlank (c : Char) : Bool := c = ' ' || c = '\t'

def skipBlanks (text : List Char) : List Char := text.dropWhile isBlank

/-- A character that may stand anywhere on a line: no control but the tabulator. -/
def isPlain (c : Char) : Bool := c = '\t' || (0x20 ≤ c.toNat && c.toNat ≠ 0x7F)

/-- The text after the end of a line. -/
def readNewline? : List Char → Option (List Char)
  | '\n' :: rest => some rest
  | '\r' :: '\n' :: rest => some rest
  | _ => none

/-- Drops a comment, if there is one, up to the end of its line. -/
def skipComment : List Char → List Char
  | '#' :: rest => rest.dropWhile isPlain
  | text => text

/-- The text after blanks, a comment and the end of the line; the text may end instead. -/
def readLineEnd? (text : List Char) : Option (List Char) :=
  match skipComment (skipBlanks text) with
  | [] => some []
  | rest => readNewline? rest

/-- Drops blanks, lines and comments with the end of their lines. -/
def skipLines : Nat → List Char → List Char
  | 0, text => text
  | fuel + 1, text =>
    let rest := skipBlanks text
    match readNewline? (skipComment rest) with
    | some rest => skipLines fuel rest
    | none => rest

/-- Blanks, lines and comments between the items of an array. -/
def skipVoid (text : List Char) : List Char := skipLines (text.length + 1) text

/-! ### Strings -/

/-- The character of a code point, which is no surrogate. -/
def ofCodePoint? (code : Nat) : Option Char :=
  if code.isValidChar then some (Char.ofNat code) else none

/-- The character of an escape, after the backslash. -/
def readEscape : Reader Char
  | 'u' :: rest => if rest.length < 4 then none else ofDigits 4 rest
  | 'U' :: rest => if rest.length < 8 then none else ofDigits 8 rest
  | '"' :: rest => some ('"', rest)
  | '\\' :: rest => some ('\\', rest)
  | 'b' :: rest => some ('\x08', rest)
  | 't' :: rest => some ('\t', rest)
  | 'n' :: rest => some ('\n', rest)
  | 'f' :: rest => some ('\x0c', rest)
  | 'r' :: rest => some ('\r', rest)
  | _ => none
where
  ofDigits (count : Nat) (text : List Char) : Option (Char × List Char) := do
    let code ← Text.readHex? (text.take count)
    (ofCodePoint? code).map (·, text.drop count)

/-- A string of one line up to its closing quote; escapes count in double quotes only. -/
def readLine (quote : Char) : Nat → Reader (List Char)
  | 0, _ => none
  | fuel + 1, text => do
    match text with
    | [] => none
    | c :: rest =>
      if c = quote then some ([], rest)
      else
        let (c, rest) ← if quote = '"' ∧ c = '\\' then readEscape rest
          else if isPlain c then some (c, rest) else none
        let (cs, rest) ← readLine quote fuel rest
        some (c :: cs, rest)

/-- The text after a backslash at the end of a line: the next character that is no blank. -/
def readContinuation? (text : List Char) : Option (List Char) :=
  (readNewline? (skipBlanks text)).map fun rest =>
    rest.dropWhile fun c => isBlank c || c = '\n' || c = '\r'

/--
A string of several lines up to its three closing quotes, which up to two more may precede. Each
end of a line is a line feed.
-/
def readLinesUpTo (quote : Char) : Nat → Reader (List Char)
  | 0, _ => none
  | fuel + 1, text => do
    let quotes := (text.takeWhile (· = quote)).length
    if 3 ≤ quotes then
      if quotes ≤ 5 then some (List.replicate (quotes - 3) quote, text.drop quotes) else none
    else match readNewline? text with
      | some rest =>
        let (cs, rest) ← readLinesUpTo quote fuel rest
        some ('\n' :: cs, rest)
      | none =>
        match text with
        | [] => none
        | c :: rest =>
          if quote = '"' ∧ c = '\\' then
            match readContinuation? rest with
            | some rest => readLinesUpTo quote fuel rest
            | none =>
              let (c, rest) ← readEscape rest
              let (cs, rest) ← readLinesUpTo quote fuel rest
              some (c :: cs, rest)
          else if isPlain c then
            let (cs, rest) ← readLinesUpTo quote fuel rest
            some (c :: cs, rest)
          else none

/-- A string of either sort after its first quote. -/
def readString (quote : Char) (text : List Char) : Option (String × List Char) :=
  let (body, read) := if text.take 2 = [quote, quote] then
      let body := text.drop 2
      ((readNewline? body).getD body, readLinesUpTo quote)
    else (text, readLine quote)
  (read (body.length + 1) body).map fun (cs, rest) => (String.ofList cs, rest)

/-! ### Keys -/

/-- A character of a name without quotes. -/
def isBare (c : Char) : Bool := c.isAlphanum || c = '_' || c = '-'

def readName : Reader String
  | '"' :: rest =>
    (readLine '"' (rest.length + 1) rest).map fun (cs, rest) => (String.ofList cs, rest)
  | '\'' :: rest =>
    (readLine '\'' (rest.length + 1) rest).map fun (cs, rest) => (String.ofList cs, rest)
  | text =>
    match text.takeWhile isBare with
    | [] => none
    | name => some (String.ofList name, text.dropWhile isBare)

/-- Names with points between them, blanks around each; `fuel` bounds their number. -/
def readNames : Nat → Reader Key
  | 0, _ => none
  | fuel + 1, text => do
    let (name, rest) ← readName (skipBlanks text)
    match skipBlanks rest with
    | '.' :: rest =>
      let (key, rest) ← readNames fuel rest
      some (⟨name :: key.path, key.name⟩, rest)
    | rest => some (⟨[], name⟩, rest)

def readKey : Reader Key := readNames (maxLevels - 1)

/-! ### Numbers, words and dates -/

/-- Digits, a single underscore allowed between each two. -/
def readDigits (isDigit : Char → Bool) : Nat → Reader (List Char)
  | 0, _ => none
  | _ + 1, [] => none
  | fuel + 1, c :: rest =>
    if !isDigit c then none
    else match rest with
      | '_' :: rest => (readDigits isDigit fuel rest).map fun (cs, rest) => (c :: cs, rest)
      | d :: _ =>
        if isDigit d then (readDigits isDigit fuel rest).map fun (cs, rest) => (c :: cs, rest)
        else some ([c], rest)
      | [] => some ([c], [])

def readDecimalDigits (text : List Char) : Option (List Char × List Char) :=
  readDigits Char.isDigit (text.length + 1) text

def readSign : List Char → Bool × List Char
  | '-' :: rest => (true, rest)
  | '+' :: rest => (false, rest)
  | text => (false, text)

/-- The digits of a whole number: no zero in front of others. -/
def readWhole : Reader (List Char)
  | '0' :: rest => some (['0'], rest)
  | text => readDecimalDigits text

def ofWhole? (n : Int) : Option Toml :=
  if -0x8000000000000000 ≤ n ∧ n < 0x8000000000000000 then some (.integer n) else none

/-- The digits of a number in another base, after their two characters. -/
def readInBase (base : Nat) (isDigit : Char → Bool) : Reader Toml := fun text => do
  let (digits, rest) ← readDigits isDigit (text.length + 1) text
  let value := digits.foldl (fun value c => base * value + (Text.hexValue? c).getD 0) 0
  (ofWhole? value).map (·, rest)

/-- The double nearest to a positive decimal; one far out of range is infinite or zero. -/
def doubleOf (negative : Bool) (digits : List Char) (exponent : Int) : Number.Double :=
  let value := Text.decimalValue digits
  let order := exponent + (Text.decimal value).length
  let magnitude :=
    if value = 0 ∨ order < -400 then 0
    else if 400 < order then Number.Format.double.infinity
    else
      Number.Format.double.roundRatio (value * Nat.pow 10 exponent.toNat)
        (Nat.pow 10 (-exponent).toNat)
  .ofParts negative magnitude

/-- The digits after a point, if there is one. -/
def readFraction (text : List Char) : Option (Option (List Char) × List Char) :=
  match text with
  | '.' :: rest => (readDecimalDigits rest).map fun (digits, rest) => (some digits, rest)
  | _ => some (none, text)

def readExponent (text : List Char) : Option (Option Int × List Char) :=
  match text with
  | c :: rest =>
    if c = 'e' ∨ c = 'E' then
      let (negative, rest) := readSign rest
      (readDecimalDigits rest).map fun (digits, rest) =>
        let value : Int := Text.decimalValue digits
        (some (if negative then -value else value), rest)
    else some (none, text)
  | [] => some (none, [])

/-- A decimal number; a float must not overflow to positive infinity. -/
def readDecimal (text : List Char) : Option (Toml × List Char) := do
  let (negative, rest) := readSign text
  let (whole, rest) ← readWhole rest
  let (fraction, rest) ← readFraction rest
  let (exponent, rest) ← readExponent rest
  match fraction, exponent with
  | none, none =>
    let value : Int := Text.decimalValue whole
    (ofWhole? (if negative then -value else value)).map (·, rest)
  | _, _ =>
    let places := fraction.getD []
    let x := doubleOf negative (whole ++ places) (exponent.getD 0 - places.length)
    if x.isInfinite ∧ !negative then none else some (.float x, rest)

def readWord (word : String) (value : Toml) : Reader Toml := fun text =>
  if word.toList.isPrefixOf text then some (value, text.drop word.length) else none

/-- A number in some base, or a word for a number that is not finite. -/
def readNumber (text : List Char) : Option (Toml × List Char) :=
  let (negative, unsigned) := readSign text
  let infinity : Toml := .float (.ofParts negative Number.Format.double.infinity)
  (readWord "inf" infinity unsigned).orElse fun _ =>
  (readWord "nan" (.float .canonicalNaN) unsigned).orElse fun _ =>
  match text with
  | '0' :: 'x' :: rest => readInBase 16 (fun c => (Text.hexValue? c).isSome) rest
  | '0' :: 'o' :: rest => readInBase 8 (fun c => c.isDigit && c < '8') rest
  | '0' :: 'b' :: rest => readInBase 2 (fun c => c = '0' || c = '1') rest
  | _ => readDecimal text

/-- Exactly `count` digits of a number between `least` and `greatest`. -/
def readBounded (count least greatest : Nat) : Reader Nat := fun text => do
  let value ← Text.readDecimal? (text.take count)
  if (text.take count).length = count ∧ least ≤ value ∧ value ≤ greatest then
    some (value, text.drop count)
  else none

def readChar (c : Char) : Reader Unit
  | d :: rest => if c = d then some ((), rest) else none
  | [] => none

def readDay (text : List Char) : Option (List Char) := do
  let (year, text) ← readBounded 4 0 9999 text
  let ((), text) ← readChar '-' text
  let (month, text) ← readBounded 2 1 12 text
  let ((), text) ← readChar '-' text
  let (day, text) ← readBounded 2 1 31 text
  if (⟨year, month, day⟩ : Time.Date).isValid then some text else none

/-- A time of the day; a fraction of a second has any number of digits. -/
def readTime (text : List Char) : Option (List Char) := do
  let (_, text) ← readBounded 2 0 23 text
  let ((), text) ← readChar ':' text
  let (_, text) ← readBounded 2 0 59 text
  let ((), text) ← readChar ':' text
  let (_, text) ← readBounded 2 0 60 text
  match text with
  | '.' :: rest =>
    if (rest.takeWhile Char.isDigit).isEmpty then some text
    else some (rest.dropWhile Char.isDigit)
  | _ => some text

def readOffset : List Char → Option (List Char)
  | [] => none
  | c :: text =>
    if c = 'Z' ∨ c = 'z' then some text
    else if c = '+' ∨ c = '-' then do
      let (_, text) ← readBounded 2 0 23 text
      let ((), text) ← readChar ':' text
      let (_, text) ← readBounded 2 0 59 text
      some text
    else none

/-- The time after a day, and the offset after the time. -/
def readClock : List Char → Option (List Char)
  | [] => none
  | c :: text =>
    if c = 'T' ∨ c = 't' ∨ c = ' ' then do
      let text ← readTime text
      some ((readOffset text).getD text)
    else none

/-- A day, perhaps with a time, or a time alone. -/
def readDate (text : List Char) : Option (Toml × List Char) :=
  match readDay text with
  | some rest => some (.date, (readClock rest).getD rest)
  | none => (readTime text).map fun rest => (.date, rest)

/-! ### Values -/

mutual

/-- A value; `levels` is how deep it may still be nested. -/
def readValue : Nat → Nat → Reader Toml
  | 0, _, _ => none
  | fuel + 1, levels, text =>
    match text with
    | '"' :: rest => (readString '"' rest).map fun (s, rest) => (.string s, rest)
    | '\'' :: rest => (readString '\'' rest).map fun (s, rest) => (.string s, rest)
    | '[' :: rest =>
      match levels with
      | 0 => none
      | levels + 1 => (readItems fuel levels rest).map fun (items, rest) => (.array items, rest)
    | '\x7b' :: rest =>
      match levels with
      | 0 => none
      | levels + 1 => do
        let (pairs, rest) ← match skipBlanks rest with
          | '\x7d' :: rest => some ([], rest)
          | _ => readPairs fuel levels rest
        (ofPairs? pairs).map (·, rest)
    | 't' :: _ => readWord "true" (.bool true) text
    | 'f' :: _ => readWord "false" (.bool false) text
    | _ => (readDate text).orElse fun _ => readNumber text

/-- The items of an array up to its closing bracket; a comma may follow the last one. -/
def readItems : Nat → Nat → Reader (List Toml)
  | 0, _, _ => none
  | fuel + 1, levels, text =>
    match skipVoid text with
    | ']' :: rest => some ([], rest)
    | text => do
      let (item, rest) ← readValue fuel levels text
      match skipVoid rest with
      | ']' :: rest => some ([item], rest)
      | ',' :: rest =>
        let (items, rest) ← readItems fuel levels rest
        some (item :: items, rest)
      | _ => none

/-- The keys and values of an inline table up to its closing brace. -/
def readPairs : Nat → Nat → Reader (List (Key × Toml))
  | 0, _, _ => none
  | fuel + 1, levels, text => do
    let (key, rest) ← readKey text
    match rest with
    | '=' :: rest =>
      let (value, rest) ← readValue fuel levels (skipBlanks rest)
      match skipBlanks rest with
      | '\x7d' :: rest => some ([(key, value)], rest)
      | ',' :: rest =>
        let (pairs, rest) ← readPairs fuel levels rest
        some ((key, value) :: pairs, rest)
      | _ => none
    | _ => none

end

/-! ### Documents -/

inductive Line where
  | header (repeated : Bool) (key : Key)
  | field (key : Key) (value : Toml)

/-- A header up to the end of its line. -/
def readHeader (text : List Char) : Option (Line × List Char) := do
  match text with
  | '[' :: rest =>
    let (key, rest) ← readKey rest
    match rest with
    | ']' :: ']' :: rest => (readLineEnd? rest).map (.header true key, ·)
    | _ => none
  | _ =>
    let (key, rest) ← readKey text
    match rest with
    | ']' :: rest => (readLineEnd? rest).map (.header false key, ·)
    | _ => none

/-- A key and a value up to the end of their line. -/
def readField? (text : List Char) : Option (Line × List Char) := do
  let (key, rest) ← readKey text
  match rest with
  | '=' :: rest =>
    let (value, rest) ← readValue (2 * rest.length + 2) (maxLevels - 1) (skipBlanks rest)
    (readLineEnd? rest).map (.field key value, ·)
  | _ => none

/-- The lines of a document that have something on them. -/
def readDocument : Nat → List Char → Option (List Line)
  | 0, _ => none
  | fuel + 1, text =>
    match skipBlanks text with
    | [] => some []
    | '#' :: rest => do readDocument fuel (← readLineEnd? ('#' :: rest))
    | '[' :: rest => do
      let (line, rest) ← readHeader rest
      (readDocument fuel rest).map (line :: ·)
    | rest =>
      match readNewline? rest with
      | some rest => readDocument fuel rest
      | none => do
        let (line, rest) ← readField? rest
        (readDocument fuel rest).map (line :: ·)

/-- Sorts the fields under the headers before them; the first ones stand under none. -/
def sections : List Line → List (Key × Toml) × List Section
  | [] => ([], [])
  | .field key value :: lines =>
    let (pairs, parts) := sections lines
    ((key, value) :: pairs, parts)
  | .header repeated key :: lines =>
    let (pairs, parts) := sections lines
    ([], ⟨repeated, key, pairs⟩ :: parts)

/-- The fields of the document that a text holds; a byte order mark may stand in front. -/
def read? (text : String) : Option Fields := do
  let text := match text.toList with
    | '\uFEFF' :: rest => rest
    | text => text
  let (pairs, parts) := sections (← readDocument (text.length + 1) text)
  ofSections? pairs parts

end SqlWeave.Toml
