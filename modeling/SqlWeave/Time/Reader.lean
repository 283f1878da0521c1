import SqlWeave.Text.Blank
import SqlWeave.Time.Timestamp

/-!
# Reading timestamps

Two grammars. The strict one is RFC 3339: four digits of year, two of everything else, any number
of digits after the point. The relaxed one, for values found in documents, also takes unpadded
numbers, signed years of any length, blanks between the parts and `UTC` for the zone. Both take a
space for the `T` and either minus sign in the offset.
-/
namespace SqlWeave.Time

/-- A reader takes a beginning of the text and leaves the rest. -/
abbrev Reader (α : Type) := List Char → Option (α × List Char)

/-- Between `least` and `most` digits, as many as there are; the value has to fit in 63 bits. -/
def readNumber (least most : Nat) : Reader Nat := fun text =>
  let digits := (text.take most).takeWhile Char.isDigit
  let value := Text.decimalValue digits
  if least ≤ digits.length ∧ value < 0x8000000000000000 then
    some (value, text.drop digits.length)
  else none

def readChar (c : Char) : Reader Unit
  | d :: text => if c = d then some ((), text) else none
  | [] => none

/-- The calendar and clock numbers of a timestamp, before they are checked together. -/
structure Fields where
  year : Int
  month : Nat
  day : Nat
  hour : Nat
  minute : Nat
  second : Nat
  nanos : Nat
  /-- Seconds east of UTC. -/
  offset : Int

/-- Digits after the point: nine count, the others are skipped. -/
def readFraction (text : List Char) : Option (Nat × List Char) :=
  match text with
  | '.' :: rest =>
    let digits := (rest.take 9).takeWhile Char.isDigit
    if digits = [] then none
    else
      some (Text.decimalValue digits * Nat.pow 10 (9 - digits.length),
        (rest.drop digits.length).dropWhile Char.isDigit)
  | _ => some (0, text)

/-- `T` in either case, or a space. -/
def readSeparator : Reader Unit
  | c :: text => if c = 'T' ∨ c = 't' ∨ c = ' ' then some ((), text) else none
  | [] => none

/-- A numeric offset: sign, two digits of hours, what `between` skips, two digits of minutes. -/
def readNumericOffset (between : Reader Unit) : Reader Int
  | sign :: text =>
    if sign = '+' ∨ sign = '-' ∨ sign = '\u2212' then do
      let (hours, text) ← readNumber 2 2 text
      let ((), text) ← between text
      let (minutes, text) ← readNumber 2 2 text
      if minutes < 60 then
        let seconds : Int := hours * 3600 + minutes * 60
        some (if sign = '+' then seconds else -seconds, text)
      else none
    else none
  | [] => none

/-- `Z` in either case, or a numeric offset. -/
def readOffset (between : Reader Unit) : Reader Int := fun text =>
  match text with
  | 'Z' :: rest => some (0, rest)
  | 'z' :: rest => some (0, rest)
  | _ => readNumericOffset between text

/--
Checks the numbers and turns them into an instant. Second 60 is a leap second; an offset lies
strictly within a day.
-/
def Fields.timestamp? (f : Fields) : Option Timestamp :=
  let date : Date := ⟨f.year, f.month, f.day⟩
  let leap := f.second = 60
  let second := if leap then 59 else f.second
  let nanos := f.nanos + if leap then 1000000000 else 0
  if date.isValid ∧ -262143 ≤ f.year ∧ f.year ≤ 262142 ∧ f.hour < 24 ∧ f.minute < 60 ∧ second < 60 ∧
      f.offset.natAbs < 86400 then
    let clock : Int := date.dayNumber * 86400 + f.hour * 3600 + f.minute * 60 + second
    Timestamp.ofParts? (clock - f.offset) nanos
  else none

/-- RFC 3339, nothing before or after it. -/
def readStrict? (text : List Char) : Option Timestamp := do
  let (year, text) ← readNumber 4 4 text
  let ((), text) ← readChar '-' text
  let (month, text) ← readNumber 2 2 text
  let ((), text) ← readChar '-' text
  let (day, text) ← readNumber 2 2 text
  let ((), text) ← readSeparator text
  let (hour, text) ← readNumber 2 2 text
  let ((), text) ← readChar ':' text
  let (minute, text) ← readNumber 2 2 text
  let ((), text) ← readChar ':' text
  let (second, text) ← readNumber 2 2 text
  let (nanos, text) ← readFraction text
  let (offset, text) ← readOffset (readChar ':') text
  if text = [] then
    Fields.timestamp? ⟨year, month, day, hour, minute, second, nanos, offset⟩
  else none

/-- A number of up to `most` digits, blanks allowed in front. -/
def readLoose (most : Nat) : Reader Nat := fun text => readNumber 1 most (Text.trimStart text)

/-- A given character, blanks allowed in front. -/
def readLooseChar (c : Char) : Reader Unit := fun text => readChar c (Text.trimStart text)

/-- A year: up to four digits, or a sign and any number of digits that fit in 63 bits. -/
def readLooseYear : Reader Int := fun text =>
  match Text.trimStart text with
  | '-' :: rest => (readNumber 1 rest.length rest).map fun (year, rest) => (-(year : Int), rest)
  | '+' :: rest => (readNumber 1 rest.length rest).map fun (year, rest) => ((year : Int), rest)
  | rest => (readNumber 1 4 rest).map fun (year, rest) => ((year : Int), rest)

/-- Colons and blanks between the hours and minutes of an offset. -/
def skipColons : Reader Unit := fun text =>
  some ((), text.dropWhile fun c => c = ':' || Text.isBlank c)

/-- `UTC` in any case, or an offset. -/
def readLooseOffset : Reader Int := fun text =>
  let text := Text.trimStart text
  if (text.take 3).map Char.toUpper = ['U', 'T', 'C'] then some (0, text.drop 3)
  else readOffset skipColons text

/-- The relaxed grammar. -/
def readRelaxed? (text : List Char) : Option Timestamp := do
  let (year, text) ← readLooseYear text
  let ((), text) ← readLooseChar '-' text
  let (month, text) ← readLoose 2 text
  let ((), text) ← readLooseChar '-' text
  let (day, text) ← readLoose 2 text
  let ((), text) ← readSeparator text
  let (hour, text) ← readLoose 2 text
  let ((), text) ← readLooseChar ':' text
  let (minute, text) ← readLoose 2 text
  let ((), text) ← readLooseChar ':' text
  let (second, text) ← readLoose 2 text
  let (nanos, text) ← readFraction text
  let (offset, text) ← readLooseOffset text
  if Text.trimStart text = [] then
    Fields.timestamp? ⟨year, month, day, hour, minute, second, nanos, offset⟩
  else none

end SqlWeave.Time
