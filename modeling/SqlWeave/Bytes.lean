import SqlWeave.Text.Decimal

/-!
# Bytes

Numbers of a fixed width as bytes, the most significant byte first, and bytes as hexadecimal text.
-/
namespace SqlWeave.Bytes

/-- The lowest `width` bytes of a number. -/
def bigEndian : Nat → Nat → List UInt8
  | 0, _ => []
  | width + 1, n => bigEndian width (n / 256) ++ [UInt8.ofNat n]

/-- The number that the bytes stand for. -/
def ofBigEndian (bytes : List UInt8) : Nat := bytes.foldl (fun n b => 256 * n + b.toNat) 0

/-- Two lower-case digits for each byte. -/
def hexText (bytes : List UInt8) : List Char :=
  bytes.flatMap fun b => Text.hexPadded 2 b.toNat

def ofHexText? : List Char → Option (List UInt8)
  | [] => some []
  | [_] => none
  | a :: b :: text => do
    let value ← Text.readHex? [a, b]
    let bytes ← ofHexText? text
    some (UInt8.ofNat value :: bytes)

@[simp] theorem length_bigEndian (width n : Nat) : (bigEndian width n).length = width := by
  induction width generalizing n with
  | zero => rfl
  | succ width ih => simp [bigEndian, ih]

/-- Reading the bytes of a number gives the number back, less what the width cuts off. -/
theorem ofBigEndian_bigEndian (width n : Nat) :
    ofBigEndian (bigEndian width n) = n % Nat.pow 256 width := by
  induction width generalizing n with
  | zero => simp [bigEndian, ofBigEndian, Nat.mod_one]
  | succ width ih =>
    have power : Nat.pow 256 (width + 1) = 256 * Nat.pow 256 width := Nat.mul_comm _ _
    have last : (UInt8.ofNat n).toNat = n % 256 := UInt8.toNat_ofNat'
    simp only [ofBigEndian] at ih ⊢
    rw [bigEndian, List.foldl_append, ih, List.foldl_cons, List.foldl_nil, last, power, Nat.mod_mul,
      Nat.add_comm]

end SqlWeave.Bytes
