import SqlWeave.Number.Shortest

/-!
# Layout of decimals

Where the digits of a number are written out and where an exponent takes over.
-/
namespace SqlWeave.Number

/-- Numbers whose leading digit stands for `10 ^ least` to `10 ^ greatest` are written out. -/
structure Layout where
  least : Int
  greatest : Int

/-- Digits, a point and at least one digit after it; the leading digit stands for `10 ^ order`. -/
def positionalText (digits : List Char) (order : Int) : List Char :=
  if order < 0 then '0' :: '.' :: List.replicate (-order - 1).toNat '0' ++ digits
  else
    let whole := order.toNat + 1
    if digits.length ≤ whole then
      digits ++ List.replicate (whole - digits.length) '0' ++ ['.', '0']
    else digits.take whole ++ '.' :: digits.drop whole

/-- One digit, the others after a point if there are any, and a signed exponent. -/
def scientificText (digits : List Char) (order : Int) : List Char :=
  let fraction := match digits.drop 1 with
    | [] => []
    | more => '.' :: more
  digits.take 1 ++ fraction ++ 'e' :: (if order < 0 then '-' else '+') ::
    Text.decimal order.natAbs

/-- A finite double in its fewest digits. -/
def Layout.text (layout : Layout) (x : Double) : List Char :=
  let sign := if x.isNegative then ['-'] else []
  if x.isZero then sign ++ ['0', '.', '0']
  else
    let shortest := x.shortest
    let digits := Text.decimal shortest.digits
    let order := shortest.exponent + digits.length - 1
    sign ++ if layout.least ≤ order ∧ order ≤ layout.greatest then positionalText digits order
      else scientificText digits order

end SqlWeave.Number
