import Mathlib.Data.List.Induction
import SqlWeave.Text.Decimal

/-!
# Hexadecimal numerals

A number is found again in its hexadecimal digits as far as they reach (`readHex?_hexPadded`), and
the case of the letters does not matter (`readHex?_map_toLower`).
-/
namespace SqlWeave.Text

/-! ### One digit -/

theorem hexValue?_hexDigit (n : Nat) : hexValue? (hexDigit n) = some (n % 16) := by
  have each : ∀ digit < 16, hexValue? (Nat.digitChar digit) = some digit := by decide
  exact each (n % 16) (Nat.mod_lt n (by decide))

theorem toLower_hexDigit (n : Nat) : (hexDigit n).toLower = hexDigit n := by
  have each : ∀ digit < 16, (Nat.digitChar digit).toLower = Nat.digitChar digit := by decide
  exact each (n % 16) (Nat.mod_lt n (by decide))

/-- The capital letters count as the small ones. -/
theorem hexValue?_toLower (c : Char) : hexValue? c.toLower = hexValue? c := by
  by_cases upper : 'A'.val ≤ c.val ∧ c.val ≤ 'Z'.val
  · have each : ∀ code < 91, 65 ≤ code →
        hexValue? (Char.ofNat code).toLower = hexValue? (Char.ofNat code) := by decide
    rw [UInt32.le_iff_toNat_le, UInt32.le_iff_toNat_le] at upper
    have capital := each c.toNat (Nat.lt_succ_of_le upper.2) upper.1
    rwa [Char.ofNat_toNat] at capital
  · have kept : c.toLower = c := dif_neg upper
    rw [kept]

/-! ### Runs of digits -/

theorem readHex?_append_singleton (text : List Char) (c : Char) :
    readHex? (text ++ [c]) =
      (readHex? text).bind fun value => (hexValue? c).map (16 * value + ·) := by
  rw [readHex?, List.foldlM_append]
  simp [readHex?]

theorem readHex?_hexPadded (width n : Nat) :
    readHex? (hexPadded width n) = some (n % Nat.pow 16 width) := by
  induction width generalizing n with
  | zero => simp [hexPadded, readHex?, Nat.mod_one]
  | succ width ih =>
    have power : Nat.pow 16 (width + 1) = 16 * Nat.pow 16 width := Nat.mul_comm _ _
    rw [hexPadded, readHex?_append_singleton, ih, hexValue?_hexDigit, power, Nat.mod_mul]
    simp [Nat.add_comm]

theorem map_toLower_hexPadded (width n : Nat) :
    (hexPadded width n).map Char.toLower = hexPadded width n := by
  induction width generalizing n with
  | zero => rfl
  | succ width ih => rw [hexPadded, List.map_append, ih, List.map_singleton, toLower_hexDigit]

theorem readHex?_map_toLower (text : List Char) :
    readHex? (text.map Char.toLower) = readHex? text := by
  simp only [readHex?, List.foldlM_map, hexValue?_toLower]

/-- Reading succeeds on digits only. -/
theorem hexValue?_of_readHex? {text : List Char} {value : Nat} (read : readHex? text = some value) :
    ∀ c ∈ text, ∃ digit, hexValue? c = some digit := by
  induction text using List.reverseRecOn generalizing value with
  | nil => simp
  | append_singleton text c ih =>
    rw [readHex?_append_singleton] at read
    obtain ⟨front, here, last⟩ := Option.bind_eq_some_iff.mp read
    obtain ⟨digit, isDigit, -⟩ := Option.map_eq_some_iff.mp last
    intro d member
    rcases List.mem_append.mp member with inFront | isLast
    · exact ih here d inFront
    · exact ⟨digit, List.mem_singleton.mp isLast ▸ isDigit⟩

end SqlWeave.Text
