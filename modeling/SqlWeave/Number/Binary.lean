/-!
# Binary floating-point numbers

A double is kept as its 64 bits, so that every rule about it is a rule about whole numbers. A
format says how wide the significand is and where the scale starts; one rounding function serves
both widths: the nearest representable value, a tie to the even significand, overflow to infinity.
-/
namespace SqlWeave.Number

/--
A binary interchange format: `precision` significand bits counting the leading one, `scale` the
negated exponent of the smallest positive value, `infinity` the bits of positive infinity.
-/
structure Format where
  precision : Nat
  scale : Nat
  infinity : Nat

/-- 64 bits: 53 significand bits, the smallest value is `2 ^ -1074`. -/
def Format.double : Format := ⟨53, 1074, 0x7FF0000000000000⟩

/-- 32 bits: 24 significand bits, the smallest value is `2 ^ -149`. -/
def Format.single : Format := ⟨24, 149, 0x7F800000⟩

/-- The whole number nearest to `num / den`; a tie goes to the even one. -/
def roundHalfEven (num den : Nat) : Nat :=
  let quotient := num / den
  let twice := 2 * (num % den)
  if twice < den then quotient
  else if den < twice then quotient + 1
  else quotient + quotient % 2

/--
The bits of the value of `format` nearest to the positive ratio `num / den`. In units of the
smallest value, the ratio is scaled down by the power of two that leaves `precision` bits; a
significand that rounds up to the next power of two carries into the exponent by itself.
-/
def Format.roundRatio (format : Format) (num den : Nat) : Nat :=
  let units := num * Nat.pow 2 format.scale
  let excess := (units / den).log2 + 1 - format.precision
  let significand := roundHalfEven units (den * Nat.pow 2 excess)
  min format.infinity (excess * Nat.pow 2 (format.precision - 1) + significand)

/-- A double, as its bits: sign, eleven bits of exponent, fifty-two of fraction. -/
structure Double where
  bits : UInt64
deriving DecidableEq, Repr

namespace Double

def signBit : Nat := 0x8000000000000000

/-- The bit above the fraction; a significand has it unless it belongs to the smallest numbers. -/
def impliedBit : Nat := 0x10000000000000

def isNegative (x : Double) : Bool := signBit ≤ x.bits.toNat

/-- The bits without the sign. -/
def magnitude (x : Double) : Nat := x.bits.toNat % signBit

def isNaN (x : Double) : Bool := Format.double.infinity < x.magnitude

def isInfinite (x : Double) : Bool := x.magnitude = Format.double.infinity

def isFinite (x : Double) : Bool := x.magnitude < Format.double.infinity

def isZero (x : Double) : Bool := x.magnitude = 0

def ofParts (negative : Bool) (magnitude : Nat) : Double :=
  ⟨UInt64.ofNat (magnitude + if negative then signBit else 0)⟩

/--
The significand and the exponent above the smallest one: a finite double is, up to its sign,
`significand * 2 ^ (excess - 1074)`.
-/
def significand (x : Double) : Nat × Nat :=
  let exponent := x.magnitude / impliedBit
  let fraction := x.magnitude % impliedBit
  if exponent = 0 then (fraction, 0) else (fraction + impliedBit, exponent - 1)

/-- The magnitude of a finite double as a ratio of whole numbers. -/
def ratio (x : Double) : Nat × Nat :=
  let (significand, excess) := x.significand
  (significand * Nat.pow 2 excess, Nat.pow 2 Format.double.scale)

/-- The double nearest to a whole number. -/
def ofInt (n : Int) : Double := ofParts (n < 0) (Format.double.roundRatio n.natAbs 1)

/-- The double nearest to the product of two magnitudes. -/
def mulMagnitude (x y : Double) : Double :=
  let (a, b) := x.ratio
  let (c, d) := y.ratio
  ofParts false (Format.double.roundRatio (a * c) (b * d))

/-- The double nearest to the quotient of two magnitudes; the second is not zero. -/
def divMagnitude (x y : Double) : Double :=
  let (a, b) := x.ratio
  let (c, d) := y.ratio
  ofParts false (Format.double.roundRatio (a * d) (b * c))

def neg (x : Double) : Double := ofParts (!x.isNegative) x.magnitude

/--
The bits of the nearest 32-bit number. A number that is not one keeps its sign and the upper part
of its payload, and is made quiet.
-/
def toSingleBits (x : Double) : UInt32 :=
  let magnitude :=
    if x.isNaN then 0x7FC00000 ||| x.magnitude % impliedBit / 0x20000000
    else if x.isInfinite then Format.single.infinity
    else
      let (num, den) := x.ratio
      Format.single.roundRatio num den
  UInt32.ofNat (magnitude + if x.isNegative then 0x80000000 else 0)

/-- The order-free comparison of numbers: zeros are equal, and nothing equals a NaN. -/
def numericEq (x y : Double) : Bool :=
  !x.isNaN && !y.isNaN && (x = y || (x.isZero && y.isZero))

/-- The one double that stands for every NaN. -/
def canonicalNaN : Double := ⟨0x7FF8000000000000⟩

end Double

end SqlWeave.Number
