/-!
# Decimal numerals

Numbers are written in base ten with no sign, no leading zero and no separator; they are read
with any number of leading zeros.
-/
namespace SqlWeave.Text

/-- The decimal digits of a number, without leading zeros; zero is `0`. -/
def decimal (n : Nat) : List Char := Nat.toDigits 10 n

/-- A number padded with zeros on the left up to `width` digits. -/
def decimalPadded (width n : Nat) : List Char :=
  List.replicate (width - (decimal n).length) '0' ++ decimal n

/-- A minus sign stands before the digits of a negative number. -/
def decimalInt (n : Int) : List Char :=
  if n < 0 then '-' :: decimal n.natAbs else decimal n.natAbs

/-- The value of one digit; other characters count as zero. -/
def digitValue (c : Char) : Nat := if c.isDigit then c.toNat - '0'.toNat else 0

/-- The number that a run of digits stands for. -/
def decimalValue (digits : List Char) : Nat :=
  digits.foldl (fun value c => 10 * value + digitValue c) 0

/-- Reads a non-empty run of digits that makes up the whole text. -/
def readDecimal? (text : List Char) : Option Nat :=
  if text ≠ [] ∧ text.all Char.isDigit then some (decimalValue text) else none

/-- The number of values of 64 bits. -/
def wordCount : Nat := 0x10000000000000000

/-- Reads a number below `2 ^ 64`; a plus sign may stand in front. -/
def readWord64? (text : List Char) : Option Nat :=
  let digits := match text with
    | '+' :: rest => rest
    | _ => text
  (readDecimal? digits).filter (· < wordCount)

def hexValue? (c : Char) : Option Nat :=
  if c.isDigit then some (c.toNat - '0'.toNat)
  else if 'a' ≤ c ∧ c ≤ 'f' then some (c.toNat - 'a'.toNat + 10)
  else if 'A' ≤ c ∧ c ≤ 'F' then some (c.toNat - 'A'.toNat + 10)
  else none

/-- The lower-case hexadecimal digit of a number below sixteen. -/
def hexDigit (n : Nat) : Char := Nat.digitChar (n % 16)

/-- Exactly `width` lower-case hexadecimal digits, the lowest ones of the number. -/
def hexPadded : Nat → Nat → List Char
  | 0, _ => []
  | width + 1, n => hexPadded width (n / 16) ++ [hexDigit n]

/-- The number that a run of hexadecimal digits stands for, if it holds nothing else. -/
def readHex? (text : List Char) : Option Nat :=
  text.foldlM (fun value c => (hexValue? c).map (16 * value + ·)) 0

@[simp] theorem length_hexPadded (width n : Nat) : (hexPadded width n).length = width := by
  induction width generalizing n with
  | zero => rfl
  | succ width ih => simp [hexPadded, ih]

end SqlWeave.Text
