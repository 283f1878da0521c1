import Mathlib.Data.List.Induction
import SqlWeave.Bytes

/-!
# Signed numbers as bytes

Signed numbers are written in two's complement. Within the range of the width nothing is lost
(`ofTwosComplement_twosComplement`), and the words of a processor are the same bytes.
-/
namespace SqlWeave.Bytes

/-- The lowest `width` bytes of a signed number. -/
def twosComplement (width : Nat) (n : Int) : List UInt8 :=
  bigEndian width (n % Nat.pow 256 width).toNat

/-- The signed number that the bytes stand for: the upper half of the range is negative. -/
def ofTwosComplement (bytes : List UInt8) : Int :=
  if 2 * ofBigEndian bytes < Nat.pow 256 bytes.length then ofBigEndian bytes
  else ofBigEndian bytes - Nat.pow 256 bytes.length

/-- The signed numbers that so many bytes hold. -/
def InRange (width : Nat) (n : Int) : Prop :=
  -(Nat.pow 256 width : Nat) ≤ 2 * n ∧ 2 * n < (Nat.pow 256 width : Nat)

theorem length_twosComplement (width : Nat) (n : Int) : (twosComplement width n).length = width :=
  length_bigEndian width _

theorem ofBigEndian_twosComplement (width : Nat) (n : Int) :
    ofBigEndian (twosComplement width n) = n % (Nat.pow 256 width : Nat) := by
  have positive : 0 < Nat.pow 256 width := Nat.pow_pos (by decide)
  have nonneg := Int.emod_nonneg n (Int.natCast_ne_zero.mpr (Nat.ne_of_gt positive))
  have small := Int.emod_lt_of_pos n (Int.natCast_pos.mpr positive)
  rw [twosComplement, ofBigEndian_bigEndian, Nat.mod_eq_of_lt (by omega),
    Int.toNat_of_nonneg nonneg]

theorem ofTwosComplement_twosComplement {width : Nat} {n : Int}
    (low : -(Nat.pow 256 width : Nat) ≤ 2 * n) (high : 2 * n < (Nat.pow 256 width : Nat)) :
    ofTwosComplement (twosComplement width n) = n := by
  have value := ofBigEndian_twosComplement width n
  rw [ofTwosComplement, length_twosComplement]
  by_cases negative : n < 0
  · -- The remainder of a negative number is that number moved up by the whole range.
    rw [← Int.add_emod_right, Int.emod_eq_of_lt (by omega) (by omega)] at value
    rw [if_neg (by omega), value, Int.add_sub_cancel]
  · rw [Int.emod_eq_of_lt (by omega) (by omega)] at value
    rw [if_pos (by omega), value]

theorem ofBigEndian_append_singleton (bytes : List UInt8) (b : UInt8) :
    ofBigEndian (bytes ++ [b]) = 256 * ofBigEndian bytes + b.toNat := by
  simp [ofBigEndian]

theorem ofBigEndian_lt (bytes : List UInt8) : ofBigEndian bytes < Nat.pow 256 bytes.length := by
  induction bytes using List.reverseRecOn with
  | nil => decide
  | append_singleton bytes b ih =>
    have power : Nat.pow 256 (bytes.length + 1) = 256 * Nat.pow 256 bytes.length := Nat.mul_comm _ _
    have last := b.toNat_lt
    rw [ofBigEndian_append_singleton, List.length_append, List.length_singleton, power]
    omega

/-- No other bytes of that number stand for the same. -/
theorem bigEndian_ofBigEndian (bytes : List UInt8) :
    bigEndian bytes.length (ofBigEndian bytes) = bytes := by
  induction bytes using List.reverseRecOn with
  | nil => rfl
  | append_singleton bytes b ih =>
    have front : (256 * ofBigEndian bytes + b.toNat) / 256 = ofBigEndian bytes := by
      have last := b.toNat_lt
      omega
    have last : UInt8.ofNat (256 * ofBigEndian bytes + b.toNat) = b := by
      apply UInt8.toNat_inj.mp
      have small := b.toNat_lt
      rw [UInt8.toNat_ofNat']
      omega
    rw [ofBigEndian_append_singleton, List.length_append, List.length_singleton, bigEndian, front,
      ih, last]

theorem twosComplement_ofTwosComplement (bytes : List UInt8) :
    twosComplement bytes.length (ofTwosComplement bytes) = bytes := by
  have small := ofBigEndian_lt bytes
  have value : (ofTwosComplement bytes % (Nat.pow 256 bytes.length : Nat)).toNat =
      ofBigEndian bytes := by
    rw [ofTwosComplement]
    split
    next => rw [Int.emod_eq_of_lt (by omega) (by omega), Int.toNat_natCast]
    next =>
      -- The upper half was moved down by the whole range.
      rw [← Int.add_emod_right, Int.sub_add_cancel, Int.emod_eq_of_lt (by omega) (by omega),
        Int.toNat_natCast]
  rw [twosComplement, value, bigEndian_ofBigEndian]

/-- The bytes of a signed word are those of its bits. -/
theorem bigEndian_ofInt (width : Nat) (n : Int) :
    bigEndian width (BitVec.ofInt (8 * width) n).toNat = twosComplement width n := by
  have range : 2 ^ (8 * width) = Nat.pow 256 width := Nat.pow_mul 2 8 width
  rw [BitVec.toNat_ofInt, range, twosComplement]

theorem bigEndian_int16 (n : Int) :
    bigEndian 2 (Int16.ofInt n).toUInt16.toNat = twosComplement 2 n := bigEndian_ofInt 2 n

theorem bigEndian_int32 (n : Int) :
    bigEndian 4 (Int32.ofInt n).toUInt32.toNat = twosComplement 4 n := bigEndian_ofInt 4 n

theorem bigEndian_int64 (n : Int) :
    bigEndian 8 (Int64.ofInt n).toUInt64.toNat = twosComplement 8 n := bigEndian_ofInt 8 n

end SqlWeave.Bytes
