import Mathlib.Data.Nat.Digits.Defs
import SqlWeave.Proofs.Text.Digits

/-!
# Digits of a given number

The value of a run of digits is that of its front, moved up by the length of its back, and that of
the back (`decimalValue_append`). So zeros in front do not count, and a number that fits is read
back from its padded digits.
-/
namespace SqlWeave.Text

theorem digitValue_le (c : Char) : digitValue c ≤ 9 := by
  unfold digitValue
  split
  next isDigit =>
    simp only [Char.isDigit, Bool.and_eq_true, decide_eq_true_eq, UInt32.le_iff_toNat_le] at isDigit
    have last : c.toNat ≤ 57 := isDigit.2
    have zero : '0'.toNat = 48 := rfl
    omega
  next => omega

theorem foldl_digitValue_start (digits : List Char) (start : Nat) :
    digits.foldl (fun value c => 10 * value + digitValue c) start =
      start * Nat.pow 10 digits.length + decimalValue digits := by
  induction digits generalizing start with
  | nil => simp [decimalValue]
  | cons c digits ih =>
    have power : Nat.pow 10 (digits.length + 1) = 10 * Nat.pow 10 digits.length := Nat.mul_comm _ _
    rw [decimalValue, List.foldl_cons, List.foldl_cons, ih, ih (10 * 0 + _), List.length_cons,
      power]
    ring

theorem decimalValue_append (front back : List Char) :
    decimalValue (front ++ back) =
      decimalValue front * Nat.pow 10 back.length + decimalValue back := by
  rw [decimalValue, List.foldl_append, foldl_digitValue_start]
  rfl

theorem decimalValue_lt (digits : List Char) : decimalValue digits < Nat.pow 10 digits.length := by
  induction digits with
  | nil => decide
  | cons c digits ih =>
    have first := digitValue_le c
    have split : decimalValue (c :: digits) =
        digitValue c * Nat.pow 10 digits.length + decimalValue digits := by
      have whole := decimalValue_append [c] digits
      simpa [decimalValue] using whole
    have power : Nat.pow 10 (digits.length + 1) = 10 * Nat.pow 10 digits.length := Nat.mul_comm _ _
    have bound := Nat.mul_le_mul_right (Nat.pow 10 digits.length) first
    rw [split, List.length_cons, power]
    omega

theorem decimalValue_zeros (count : Nat) : decimalValue (List.replicate count '0') = 0 := by
  induction count with
  | zero => rfl
  | succ count ih =>
    rw [List.replicate_succ', decimalValue_append, ih]
    rfl

theorem decimalValue_decimal (n : Nat) : decimalValue (decimal n) = n := Digits.value_ofNat n

theorem exists_decimal_eq_cons (n : Nat) :
    ∃ first others, decimal n = first :: others ∧ first.isDigit = true := by
  have areDigits : ∀ c ∈ decimal n, c.isDigit = true := (Digits.ofNat n).areDigits
  obtain ⟨first, others, digits⟩ := List.exists_cons_of_ne_nil (Digits.ofNat n).nonempty
  rw [Digits.chars_ofNat] at digits
  exact ⟨first, others, digits, areDigits first (digits ▸ List.mem_cons_self)⟩

/-- A zero in front stands alone. -/
theorem eq_nil_of_decimal_eq {n : Nat} {rest : List Char} (digits : decimal n = '0' :: rest) :
    rest = [] := by
  by_contra nonempty
  have value : n = decimalValue rest := by
    have front : decimalValue ('0' :: rest) = decimalValue rest := rfl
    rw [← decimalValue_decimal n, digits, front]
  have short : (decimal n).length ≤ rest.length := by
    rw [decimal, Nat.length_toDigits_le_iff (by decide) (List.length_pos_iff.mpr nonempty)]
    exact value ▸ decimalValue_lt rest
  rw [digits, List.length_cons] at short
  omega

theorem decimalValue_decimalPadded (width n : Nat) : decimalValue (decimalPadded width n) = n := by
  rw [decimalPadded, decimalValue_append, decimalValue_zeros, decimalValue_decimal, Nat.zero_mul,
    Nat.zero_add]

theorem isDigit_of_mem_decimalPadded {width n : Nat} :
    ∀ c ∈ decimalPadded width n, c.isDigit = true := by
  intro c member
  rcases List.mem_append.mp member with zero | digit
  · rw [List.eq_of_mem_replicate zero]
    rfl
  · exact (Digits.ofNat n).areDigits c digit

theorem length_decimalPadded {width n : Nat} (positive : 0 < width) (fits : n < Nat.pow 10 width) :
    (decimalPadded width n).length = width := by
  have short : (decimal n).length ≤ width :=
    (Nat.length_toDigits_le_iff (by decide) positive).mpr fits
  rw [decimalPadded, List.length_append, List.length_replicate]
  omega

end SqlWeave.Text
