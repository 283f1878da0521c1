import Mathlib.Data.List.TakeWhile
import SqlWeave.Json.Printer
import SqlWeave.Json.Reader
import SqlWeave.Proofs.Text.Padded

/-!
# Whole numbers in JSON

A whole number is written without a zero in front, and read up to whatever else can follow a value
(`readNumber?_decimalInt`). It keeps its value if it has 64 bits (`numeral?_ofInt`).
-/
namespace SqlWeave.Json

/-- The text ends, or it goes on with what stands behind an item or a field. -/
def EndsValue (rest : List Char) : Prop := ∀ c ∈ rest.head?, c = ',' ∨ c = ']' ∨ c = '\x7d'

/-- A whole number as it is written. -/
def Lexeme.ofInt (n : Int) : Lexeme := ⟨n < 0, Text.decimal n.natAbs, none, none⟩

section Reading

variable {rest : List Char} (ends : EndsValue rest)
include ends

theorem readDigits?_decimal (n : Nat) :
    readDigits? (Text.decimal n ++ rest) = some (Text.decimal n, rest) := by
  have areDigits : ∀ c ∈ Text.decimal n, c.isDigit = true := (Text.Digits.ofNat n).areDigits
  have stop : rest.takeWhile Char.isDigit = [] ∧ rest.dropWhile Char.isDigit = rest := by
    cases rest with
    | nil => exact ⟨rfl, rfl⟩
    | cons c rest => rcases ends c rfl with rfl | rfl | rfl <;> exact ⟨rfl, rfl⟩
  obtain ⟨first, others, digits, -⟩ := Text.exists_decimal_eq_cons n
  rw [readDigits?, List.takeWhile_append_of_pos areDigits, List.dropWhile_append_of_pos areDigits,
    stop.1, stop.2, List.append_nil, digits]

theorem readWhole?_decimal (n : Nat) :
    readWhole? (Text.decimal n ++ rest) = some (Text.decimal n, rest) := by
  have noZero : ¬ (1 < (Text.decimal n).length ∧ (Text.decimal n).head? = some '0') := by
    rintro ⟨long, zero⟩
    obtain ⟨others, digits⟩ := List.head?_eq_some_iff.mp zero
    have alone := Text.eq_nil_of_decimal_eq digits
    simp [digits, alone] at long
  rw [readWhole?, readDigits?_decimal ends]
  exact if_neg noZero

theorem readFraction?_of_ends : readFraction? rest = some (none, rest) := by
  cases rest with
  | nil => rfl
  | cons c rest => rcases ends c rfl with rfl | rfl | rfl <;> rfl

theorem readExponent?_of_ends : readExponent? rest = some (none, rest) := by
  cases rest with
  | nil => rfl
  | cons c rest => rcases ends c rfl with rfl | rfl | rfl <;> rfl

theorem readNumber?_decimalInt (n : Int) :
    readNumber? (Text.decimalInt n ++ rest) = some (.ofInt n, rest) := by
  have whole := readWhole?_decimal ends n.natAbs
  have fraction := readFraction?_of_ends ends
  have exponent := readExponent?_of_ends ends
  unfold Text.decimalInt
  split
  next negative =>
    simp [readNumber?, whole, fraction, exponent, Lexeme.ofInt, negative]
  next positive =>
    obtain ⟨first, others, digits, isDigit⟩ := Text.exists_decimal_eq_cons n.natAbs
    have noSign : ∀ more, Text.decimal n.natAbs ++ rest ≠ '-' :: more := by
      rintro more same
      rw [digits] at same
      cases same
      cases isDigit
    rw [readNumber?]
    · simp [whole, fraction, exponent, Lexeme.ofInt, positive]
    · exact noSign

end Reading

/-- Whole numbers of 64 bits, signed or not, keep their value. -/
theorem numeral?_ofInt {n : Int} (least : -0x8000000000000000 ≤ n) (greatest : n ≤ maxWord) :
    (Lexeme.ofInt n).numeral? = some (.int n) := by
  have value : Text.decimalValue (Text.decimal n.natAbs) = n.natAbs := Text.decimalValue_decimal _
  have small : n.natAbs ≤ maxWord := by
    have words : maxWord = 0xFFFFFFFFFFFFFFFF := rfl
    omega
  simp only [Lexeme.numeral?, Lexeme.ofInt, value, small, and_self, if_true]
  by_cases negative : n < 0
  · have magnitude : 0 < n.natAbs ∧ n.natAbs ≤ 0x8000000000000000 := by omega
    have same : n = -(n.natAbs : Int) := by omega
    rw [if_neg (by simp [negative]), if_pos magnitude, ← same]
  · have same : n = (n.natAbs : Int) := by omega
    rw [if_pos (by simp [negative]), ← same]

end SqlWeave.Json
