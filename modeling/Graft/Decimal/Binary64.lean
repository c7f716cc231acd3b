/-!
# Double precision magnitudes

The finite magnitudes of the 64-bit binary format, held exactly as `significand · 2 ^ exponent`.
A decimal is rounded to the nearest of them, and to the even significand when two are equally near.
-/

namespace Graft.Decimal

/-- A magnitude `significand · 2 ^ exponent`. Above the least exponent the significand has all its
53 bits. -/
structure Binary64 where
  significand : Nat
  exponent : Int
  deriving DecidableEq, Inhabited

/-- A positive fraction, for exact comparison of magnitudes of any size. -/
structure Fraction where
  num : Nat
  den : Nat
  deriving DecidableEq, Inhabited

namespace Fraction

def scaled (value base : Nat) (power : Int) : Fraction :=
  ⟨value * base.pow power.toNat, base.pow (-power).toNat⟩

def unscale (x : Fraction) (base : Nat) (power : Int) : Fraction :=
  ⟨x.num * base.pow (-power).toNat, x.den * base.pow power.toNat⟩

def floor (x : Fraction) : Nat := x.num / x.den

/-- The natural number nearest to a fraction, the even one of two. -/
def roundToEven (x : Fraction) : Nat :=
  let below := x.floor
  let twice := 2 * (x.num % x.den)
  if twice < x.den then below
  else if x.den < twice then below + 1
  else below + below % 2

end Fraction

namespace Binary64

def precision : Nat := 53

def leastExponent : Int := -1074

def greatestExponent : Int := 971

/-- The exponent under which a positive fraction has a full significand, or the least exponent. -/
def exponentFor (x : Fraction) : Int :=
  let guess : Int := (x.num.log2 : Int) - x.den.log2 - precision
  let exact := if (x.unscale 2 guess).floor < Nat.pow 2 precision then guess else guess + 1
  max exact leastExponent

/-- The magnitude nearest to a positive fraction, if it is not beyond the greatest one. -/
def ofFraction? (x : Fraction) : Option Binary64 :=
  let exponent := exponentFor x
  let rounded := (x.unscale 2 exponent).roundToEven
  let nearest : Binary64 :=
    if rounded < Nat.pow 2 precision then ⟨rounded, exponent⟩ else ⟨rounded / 2, exponent + 1⟩
  if nearest.exponent ≤ greatestExponent then some nearest else none

/-- The magnitude nearest to `digits · 10 ^ power`, if it is not beyond the greatest one. Powers
that are far out of range are settled by the number of digits alone. -/
def ofDecimal? (digits : Nat) (power : Int) : Option Binary64 :=
  let magnitude : Int := (Nat.toDigits 10 digits).length + power
  if digits = 0 then some ⟨0, leastExponent⟩
  else if 310 < magnitude then none
  else if magnitude < -330 then some ⟨0, leastExponent⟩
  else ofFraction? (.scaled digits 10 power)

end Binary64

end Graft.Decimal
