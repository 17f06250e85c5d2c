/-! Floating-point numbers with 53 significant bits, as exact values. An operation gives the number
nearest to the exact result, and of two that are equally near the one with an even mantissa. -/

namespace Autotools

/-- The number `mantissa · 2 ^ exponent`. The mantissa has at most 53 bits, and all of them unless
the exponent is the least one. -/
structure Binary64 where
  mantissa : Nat
  exponent : Int
deriving DecidableEq, Inhabited, Repr

/-- A fraction with a denominator that is not zero. -/
structure Fraction where
  num : Nat
  den : Nat
deriving DecidableEq, Inhabited, Repr

namespace Fraction

/-- A fraction times a power of two. -/
def shift (f : Fraction) (n : Int) : Fraction :=
  ⟨f.num <<< n.toNat, f.den <<< (-n).toNat⟩

def mul (f g : Fraction) : Fraction := ⟨f.num * g.num, f.den * g.den⟩

def div (f g : Fraction) : Fraction := ⟨f.num * g.den, f.den * g.num⟩

/-- The whole number nearest to a fraction, the even one of two. -/
def nearest (f : Fraction) : Nat :=
  let whole := f.num / f.den
  let rest := 2 * (f.num % f.den)
  if f.den < rest || (f.den = rest && whole % 2 = 1) then whole + 1 else whole

/-- The exponent of the greatest power of two that is no greater than a fraction above zero. -/
def log2 (f : Fraction) : Int :=
  let guess : Int := (f.num.log2 : Int) - f.den.log2
  let scaled := f.shift (-guess)
  if scaled.den ≤ scaled.num then guess else guess - 1

end Fraction

namespace Binary64

def zero : Binary64 := ⟨0, 0⟩

/-- The least mantissa that has all its bits. -/
def leastFull : Nat := 1 <<< 52

/-- The least exponent. -/
def minExponent : Int := -1074

/-- The greatest exponent. -/
def maxExponent : Int := 971

/-- The number nearest to a fraction, unless it is too great. -/
def round? (f : Fraction) : Option Binary64 :=
  if f.num = 0 then some zero
  else
    let exponent := max minExponent (f.log2 - 52)
    let mantissa := (f.shift (-exponent)).nearest
    let carried : Binary64 :=
      if mantissa = 2 * leastFull then ⟨leastFull, exponent + 1⟩ else ⟨mantissa, exponent⟩
    if maxExponent < carried.exponent then none else some carried

/-- The exact value of a number. -/
def toFraction (x : Binary64) : Fraction := (⟨x.mantissa, 1⟩ : Fraction).shift x.exponent

def ofNat? (n : Nat) : Option Binary64 := round? ⟨n, 1⟩

def mul? (x y : Binary64) : Option Binary64 := round? (x.toFraction.mul y.toFraction)

/-- The quotient by a number that is not zero. -/
def div? (x y : Binary64) : Option Binary64 := round? (x.toFraction.div y.toFraction)

end Binary64

end Autotools
