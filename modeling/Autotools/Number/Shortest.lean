import Autotools.Number.Binary64

/-! The shortest decimal for a floating-point number: the fewest digits that read back as the
number, and of those the ones nearest to it. -/

namespace Autotools

/-- The number `digits · 10 ^ exponent`. -/
structure Decimal where
  digits : Nat
  exponent : Int
deriving DecidableEq, Inhabited, Repr

namespace Decimal

def toFraction (d : Decimal) : Fraction :=
  ⟨d.digits * Nat.pow 10 d.exponent.toNat, Nat.pow 10 (-d.exponent).toNat⟩

/-- The greatest decimal with an exponent that is no greater than a fraction. -/
def floor (f : Fraction) (exponent : Int) : Decimal :=
  ⟨f.num * Nat.pow 10 (-exponent).toNat / (f.den * Nat.pow 10 exponent.toNat), exponent⟩

/-- A decimal without zeros at the end, of which there are at most so many. -/
def trim : Nat → Decimal → Decimal
  | 0, d => d
  | n + 1, d =>
    if d.digits ≠ 0 && d.digits % 10 = 0 then trim n ⟨d.digits / 10, d.exponent + 1⟩ else d

end Decimal

/-- Whether a fraction is less than another. -/
def Fraction.lt (f g : Fraction) : Bool := f.num * g.den < g.num * f.den

def Fraction.le (f g : Fraction) : Bool := f.num * g.den ≤ g.num * f.den

/-- How far apart two fractions are. -/
def Fraction.distance (f g : Fraction) : Fraction :=
  ⟨(f.num * g.den - g.num * f.den) + (g.num * f.den - f.num * g.den), f.den * g.den⟩

/-- The exponent of the greatest power of ten that is no greater than a fraction above zero,
searched for from a bound downwards. -/
def Fraction.log10Below (f : Fraction) : Nat → Int → Int
  | 0, bound => bound
  | n + 1, bound =>
    if (Decimal.toFraction ⟨1, bound⟩).le f then bound else f.log10Below n (bound - 1)

namespace Binary64

/-- Whether a fraction is read as a number: it lies between the middles of the number and its
neighbours, and on such a middle if the mantissa is even. The neighbour below is nearer where the
exponent changes. -/
def isReadFrom (x : Binary64) (f : Fraction) : Bool :=
  let atEdge := x.mantissa = leastFull && minExponent < x.exponent
  let low := (⟨4 * x.mantissa - (if atEdge then 1 else 2), 4⟩ : Fraction).shift x.exponent
  let high := (⟨4 * x.mantissa + 2, 4⟩ : Fraction).shift x.exponent
  if x.mantissa % 2 = 0 then low.le f && f.le high else low.lt f && f.lt high

/-- The nearer to a number of two neighbouring decimals that are read as the number, the even one if
they are equally near. -/
def nearer? (x : Binary64) (below above : Decimal) : Option Decimal :=
  let value := x.toFraction
  match x.isReadFrom below.toFraction, x.isReadFrom above.toFraction with
  | false, false => none
  | true, false => some below
  | false, true => some above
  | true, true =>
    let down := below.toFraction.distance value
    let up := above.toFraction.distance value
    if down.lt up || (down.le up && below.digits % 2 = 0) then some below else some above

/-- The decimal with so many digits that is read as a number above zero. -/
def withDigits? (x : Binary64) (magnitude : Int) (count : Nat) : Option Decimal :=
  let below := Decimal.floor x.toFraction (magnitude - count + 1)
  x.nearer? below { below with digits := below.digits + 1 }

/-- The decimal with the fewest digits that is read as a number above zero. Seventeen digits always
suffice. -/
def shortest (x : Binary64) : Decimal :=
  let magnitude := x.toFraction.log10Below 640 309
  (((List.range 17).findSome? fun n => x.withDigits? magnitude (n + 1)).getD ⟨0, 0⟩).trim 20

end Binary64

end Autotools
