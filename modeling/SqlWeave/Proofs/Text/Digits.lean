import SqlWeave.Text.Decimal
import SqlWeave.Text.Utf8

/-!
# Runs of digits

A number is spelled by a non-empty run of ASCII digits. Writing a number gives digits that read
back as that number; other runs for the same number have zeros in front.
-/
namespace SqlWeave.Text

/-- A non-empty run of digits. -/
structure Digits where
  chars : List Char
  nonempty : chars ≠ []
  areDigits : ∀ c ∈ chars, c.isDigit = true

namespace Digits

/-- The number that the digits stand for. -/
def value (n : Digits) : Nat := decimalValue n.chars

/-- A number without leading zeros. -/
def ofNat (number : Nat) : Digits where
  chars := decimal number
  nonempty := Nat.toDigits_ne_nil
  areDigits := fun _ member => Nat.isDigit_of_mem_toDigits (by decide) (by decide) member

@[simp] theorem chars_ofNat (number : Nat) : (ofNat number).chars = decimal number := rfl

private theorem foldl_digitValue (digits : List Char) (start : Nat)
    (areDigits : ∀ c ∈ digits, c.isDigit = true) :
    digits.foldl (fun value c => 10 * value + digitValue c) start =
      Nat.ofDigitChars 10 digits start := by
  induction digits generalizing start with
  | nil => simp
  | cons c digits ih =>
    have isDigit : c.isDigit = true := areDigits c (by simp)
    have rest : ∀ d ∈ digits, d.isDigit = true := fun d member => areDigits d (by simp [member])
    rw [List.foldl_cons, Nat.ofDigitChars_cons, ih _ rest]
    simp [digitValue, isDigit]

@[simp] theorem value_ofNat (number : Nat) : (ofNat number).value = number := by
  have folded := foldl_digitValue (decimal number) 0 (ofNat number).areDigits
  exact folded.trans Nat.ofDigitChars_ten_toDigits

theorem readDecimal?_chars (n : Digits) : readDecimal? n.chars = some n.value := by
  have all : n.chars.all Char.isDigit = true := List.all_eq_true.mpr n.areDigits
  simp [readDecimal?, n.nonempty, all, value]

/-- Reading succeeds on runs of digits only. -/
theorem of_readDecimal? {text : List Char} {number : Nat} (read : readDecimal? text = some number) :
    ∃ n : Digits, n.chars = text ∧ n.value = number := by
  unfold readDecimal? at read
  split at read
  next digits =>
    cases read
    exact ⟨⟨text, digits.1, List.all_eq_true.mp digits.2⟩, rfl, rfl⟩
  next => cases read

end Digits

/-- What holds of the ten digits holds of every digit. -/
theorem of_isDigit (holds : Char → Prop) (each : ∀ code < 58, 48 ≤ code → holds (Char.ofNat code))
    {c : Char} (isDigit : c.isDigit = true) : holds c := by
  simp only [Char.isDigit, Bool.and_eq_true, decide_eq_true_eq, ge_iff_le,
    UInt32.le_iff_toNat_le] at isDigit
  have here := each c.toNat (Nat.lt_succ_of_le isDigit.2) isDigit.1
  rwa [Char.ofNat_toNat] at here

/-- Every ASCII digit takes one byte. -/
theorem utf8Size_of_isDigit {c : Char} (isDigit : c.isDigit = true) : c.utf8Size = 1 := by
  have small : c.val ≤ 0x7f := by
    simp only [Char.isDigit, Bool.and_eq_true, decide_eq_true_eq] at isDigit
    exact UInt32.le_trans isDigit.2 (by decide)
  simp [Char.utf8Size, small]

theorem byteLength_of_digits {digits : List Char} (areDigits : ∀ c ∈ digits, c.isDigit = true) :
    byteLength digits = digits.length := by
  induction digits with
  | nil => rfl
  | cons c digits ih =>
    have first := utf8Size_of_isDigit (areDigits c (by simp))
    have rest := ih fun d member => areDigits d (by simp [member])
    rw [byteLength_cons, List.length_cons, first, rest, Nat.add_comm]

/-- Does a digit stand at the byte `position`? -/
def digitAt (position : Nat) (text : List Char) : Bool :=
  (splitBytes position text).2.head?.any Char.isDigit

end SqlWeave.Text
