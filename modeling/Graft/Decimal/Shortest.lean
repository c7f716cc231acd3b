import Graft.Decimal.Binary64

/-!
# Shortest decimals

The fewest decimal digits that read back as a given double precision magnitude. For one digit, two
digits and so on, the two neighbours of the magnitude on that decimal grid are tried; the first grid
that has a neighbour which reads back decides, and the nearer of two neighbours is taken.
-/

namespace Graft.Decimal

structure Scientific where
  digits : Nat
  power : Int
  deriving DecidableEq, Inhabited

/-- Writes ten of one decimal place as one of the next. -/
def Scientific.carry (x : Scientific) : Scientific :=
  if x.digits = 10 then ⟨1, x.power + 1⟩ else x

namespace Binary64

/-- The fractions that round to a magnitude lie between these two. They are counted in quarters of
the last binary place, because the place below a power of two is half as wide. -/
def bounds (x : Binary64) : Fraction × Fraction :=
  let narrow := x.significand = Nat.pow 2 (precision - 1) ∧ leastExponent < x.exponent
  let below := if narrow then 4 * x.significand - 1 else 4 * x.significand - 2
  (.scaled below 2 (x.exponent - 2), .scaled (4 * x.significand + 2) 2 (x.exponent - 2))

/-- Tells whether a decimal reads back as a magnitude. The bounds themselves do when the significand
is even. -/
def readsBack (x : Binary64) (decimal : Scientific) : Bool :=
  let (low, high) := x.bounds
  let value := Fraction.scaled decimal.digits 10 decimal.power
  let fromLow := low.num * value.den
  let toHigh := high.num * value.den
  if x.significand % 2 = 0 then
    fromLow ≤ value.num * low.den && value.num * high.den ≤ toHigh
  else fromLow < value.num * low.den && value.num * high.den < toHigh

/-- The power of ten of the first decimal digit of a positive fraction. -/
def leadingPower (x : Fraction) : Int :=
  let guess : Int := ((x.num.log2 : Int) - x.den.log2) * 30103 / 100000 - 1
  let reaches (power : Int) : Bool := 1 ≤ (x.unscale 10 power).floor
  if reaches (guess + 2) then guess + 2 else if reaches (guess + 1) then guess + 1 else guess

/-- The nearest decimal on the grid of step `10 ^ power` that reads back, if one does. -/
def onGrid? (x : Binary64) (power : Int) : Option Scientific :=
  let value := (Fraction.scaled x.significand 2 x.exponent).unscale 10 power
  let below : Scientific := ⟨value.floor, power⟩
  let above : Scientific := ⟨value.floor + 1, power⟩
  match x.readsBack below, x.readsBack above with
  | true, true => if 2 * (value.num % value.den) < value.den then some below else some above
  | true, false => some below
  | false, true => some above
  | false, false => none

/-- The shortest decimal of a positive magnitude; seventeen digits are always enough. Only a single
digit can have been rounded up to ten. -/
def shortest (x : Binary64) : Scientific :=
  let leading := leadingPower (.scaled x.significand 2 x.exponent)
  let grids := (List.range 17).map fun (count : Nat) => leading - count
  ((grids.findSome? x.onGrid?).getD default).carry

end Binary64

namespace Scientific

/-- A decimal written without an exponent and with at least one digit after the point. -/
def positional (x : Scientific) : String :=
  let digits := Nat.toDigits 10 x.digits
  let zeros (count : Int) := List.replicate count.toNat '0'
  let point : Int := digits.length + x.power
  if 0 ≤ x.power then .ofList (digits ++ zeros x.power ++ ['.', '0'])
  else if 0 < point then
    .ofList (digits.take point.toNat ++ '.' :: digits.drop point.toNat)
  else .ofList ('0' :: '.' :: zeros (-point) ++ digits)

end Scientific

namespace Binary64

/-- A magnitude as it is written: its shortest decimal, without an exponent. -/
def text (x : Binary64) : String :=
  if x.significand = 0 then "0.0" else x.shortest.positional

end Binary64

end Graft.Decimal
