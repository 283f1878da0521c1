import SqlWeave.Number.Binary
import SqlWeave.Text.Decimal

/-!
# The shortest decimal of a double

A double is written with the fewest decimal digits that read back as the same double, and among
those with the ones nearest to its exact value. The reals that round to a double form an
interval; for one digit, two digits and so on, the two neighbours of the exact value on that
decimal grid are tried, and the first grid with a neighbour inside the interval wins.
-/
namespace SqlWeave.Number

/-- A positive decimal `digits * 10 ^ exponent`. -/
structure DecimalFloat where
  digits : Nat
  exponent : Int
deriving DecidableEq, Repr

/--
The reals that round to a double, times `4 / unit` where `unit` is the distance to the next double
below it of the same exponent: the exact value stands at `center`, the ends at `low` and `high`,
and the ends belong to the interval when the significand is even.
-/
structure RoundingInterval where
  low : Nat
  center : Nat
  high : Nat
  closed : Bool
  /-- The unit of the three numbers is `2 ^ exponent`. -/
  exponent : Int

/-- The interval of a positive finite double; below a power of two the next double is nearer. -/
def Double.roundingInterval (x : Double) : RoundingInterval :=
  let (significand, excess) := x.significand
  let nearer := significand = impliedBit ∧ excess ≠ 0
  { low := 4 * significand - (if nearer then 1 else 2)
    center := 4 * significand
    high := 4 * significand + 2
    closed := significand % 2 = 0
    exponent := excess - (Format.double.scale : Int) - 2 }

/-- Numerator and denominator of `n * 2 ^ exponent`. -/
def scaledByTwo (n : Nat) (exponent : Int) : Nat × Nat :=
  (n * Nat.pow 2 exponent.toNat, Nat.pow 2 (-exponent).toNat)

/-- The power of ten of the leading digit of a positive ratio. -/
def decimalOrder (num den : Nat) : Int :=
  let estimate : Int := (Text.decimal num).length - (Text.decimal den).length
  if num * Nat.pow 10 (-estimate).toNat < den * Nat.pow 10 estimate.toNat then estimate - 1
  else estimate

/-- Does the ratio `num / den` lie in the interval? -/
def RoundingInterval.holds (i : RoundingInterval) (num den : Nat) : Bool :=
  let (scale, unscale) := scaledByTwo 1 i.exponent
  let below := i.low * scale * den
  let value := num * unscale
  let above := i.high * scale * den
  if i.closed then below ≤ value && value ≤ above else below < value && value < above

/-- The neighbour of the center on the grid of multiples of `10 ^ exponent` that reads back. -/
def RoundingInterval.onGrid? (i : RoundingInterval) (exponent : Int) : Option Nat :=
  let (num, den) := scaledByTwo i.center i.exponent
  let up := Nat.pow 10 exponent.toNat
  let down := Nat.pow 10 (-exponent).toNat
  let lower := num * down / (den * up)
  let lowerHolds := i.holds (lower * up) down
  let upperHolds := i.holds ((lower + 1) * up) down
  match lowerHolds, upperHolds with
  | true, false => some lower
  | false, true => some (lower + 1)
  | true, true => some (roundHalfEven (num * down) (den * up))
  | false, false => none

/-- Moves trailing zeros of the digits into the exponent. -/
def DecimalFloat.normalize (fuel : Nat) (d : DecimalFloat) : DecimalFloat :=
  match fuel with
  | 0 => d
  | fuel + 1 =>
    if d.digits ≠ 0 ∧ d.digits % 10 = 0 then
      normalize fuel ⟨d.digits / 10, d.exponent + 1⟩
    else d

/-- Seventeen digits always suffice. -/
def maxDigits : Nat := 17

/-- The shortest decimal of a positive finite double. -/
def Double.shortest (x : Double) : DecimalFloat :=
  let i := x.roundingInterval
  let (num, den) := scaledByTwo i.center i.exponent
  let order := decimalOrder num den
  let candidate := (List.range maxDigits).findSome? fun (more : Nat) =>
    (i.onGrid? (order - more)).map fun digits => (⟨digits, order - more⟩ : DecimalFloat)
  (candidate.getD ⟨0, 0⟩).normalize (maxDigits + 1)

end SqlWeave.Number
