import Autotools.Number.Shortest

/-! Numbers in JSON. A whole number that fits in 64 bits is kept as it is; every other number is
kept as a floating-point number, which its literal is read as in steps that each round. -/

namespace Autotools.Json.Number

/-- The least and the greatest whole number. -/
def minWhole : Int := -9223372036854775808
def maxWhole : Int := 18446744073709551615

/-- The greatest significand. -/
def maxSignificand : Nat := 18446744073709551615

def digitValue (c : Char) : Nat := c.toNat - '0'.toNat

/-- The number that digits stand for. -/
def ofDigits (s : List Char) : Nat := s.foldl (fun n c => n * 10 + digitValue c) 0

/-- The whole number that a literal stands for. A zero with a sign is none. -/
def whole? (literal : String) : Option Int :=
  let (isNegative, digits) := match literal.toList with
    | '-' :: rest => (true, rest)
    | s => (false, s)
  if digits.isEmpty || !digits.all (·.isDigit) then none
  else
    let n : Int := if isNegative then -(ofDigits digits : Int) else ofDigits digits
    if (isNegative && n = 0) || n < minWhole || maxWhole < n then none else some n

/-- A number under way: a significand and an exponent of ten. -/
structure Scaled where
  significand : Nat
  exponent : Int
deriving DecidableEq, Inhabited, Repr

namespace Scaled

/-- Takes up the digits before the point. From the first one that does not fit, all are only
counted. -/
def takeWhole (x : Scaled) : List Char → Scaled
  | [] => x
  | c :: rest =>
    let next := x.significand * 10 + digitValue c
    if maxSignificand < next then { x with exponent := x.exponent + (rest.length + 1 : Nat) }
    else takeWhole { x with significand := next } rest

/-- Takes up the digits after the point. From the first one that does not fit, all are dropped. -/
def takeFraction (x : Scaled) : List Char → Scaled
  | [] => x
  | c :: rest =>
    let next := x.significand * 10 + digitValue c
    if maxSignificand < next then x else takeFraction ⟨next, x.exponent - 1⟩ rest

end Scaled

/-- The parts of a literal without sign: the digits before the point, those after it, and the
exponent. -/
def parts (s : List Char) : List Char × List Char × Int :=
  let whole := s.takeWhile (·.isDigit)
  let rest := s.dropWhile (·.isDigit)
  let (fraction, rest) := match rest with
    | '.' :: rest => (rest.takeWhile (·.isDigit), rest.dropWhile (·.isDigit))
    | rest => ([], rest)
  let exponent : Int := match rest with
    | _ :: '-' :: digits => -(ofDigits digits : Int)
    | _ :: '+' :: digits | _ :: digits => ofDigits digits
    | [] => 0
  (whole, fraction, exponent)

/-- The significand and the exponent that a literal without sign gives. -/
def scaled (s : List Char) : Scaled :=
  let (whole, fraction, exponent) := parts s
  let read := ((⟨0, 0⟩ : Scaled).takeWhole whole).takeFraction fraction
  { read with exponent := read.exponent + exponent }

/-- The greatest power of ten that is a floating-point number. -/
def maxPower : Nat := 308

/-- A number divided by a power of ten, in steps that each round. What is left after so many steps
is zero. -/
def scaleDown : Nat → Binary64 → Nat → Option Binary64
  | 0, _, _ => some .zero
  | steps + 1, x, power =>
    if power ≤ maxPower then do x.div? (← Binary64.ofNat? (Nat.pow 10 power))
    else do scaleDown steps (← x.div? (← Binary64.ofNat? (Nat.pow 10 maxPower))) (power - maxPower)

/-- The floating-point number for a significand and an exponent, unless it is too great. -/
def Scaled.toBinary? (x : Scaled) : Option Binary64 := do
  let f ← Binary64.ofNat? x.significand
  if x.significand = 0 then some .zero
  else if x.exponent < 0 then scaleDown 5 f x.exponent.natAbs
  else if x.exponent ≤ maxPower then f.mul? (← Binary64.ofNat? (Nat.pow 10 x.exponent.toNat))
  else none

/-- The digits of an exponent, always with a sign. -/
def exponentText (n : Int) : List Char :=
  'e' :: (if n < 0 then '-' else '+') :: (Nat.repr n.natAbs).toList

/-- The text of a decimal: positional between five places below and sixteen above the point, with a
point in any case, and with an exponent beyond that. -/
def decimalText (d : Decimal) : List Char :=
  let digits := (Nat.repr d.digits).toList
  let point : Int := digits.length + d.exponent
  let zeros (n : Int) : List Char := List.replicate n.toNat '0'
  if 0 ≤ d.exponent && point ≤ 16 then digits ++ zeros d.exponent ++ ['.', '0']
  else if 0 < point && point ≤ 16 then digits.take point.toNat ++ '.' :: digits.drop point.toNat
  else if -5 < point && point ≤ 0 then '0' :: '.' :: zeros (-point) ++ digits
  else
    match digits with
    | [digit] => digit :: exponentText (point - 1)
    | first :: rest => first :: '.' :: rest ++ exponentText (point - 1)
    | [] => []

/-- The text of a floating-point number without sign. -/
def binaryText (x : Binary64) : List Char :=
  if x.mantissa = 0 then ['0', '.', '0'] else decimalText x.shortest

/-- The literal that is written for what a literal is read as. -/
def canonical (literal : String) : String :=
  match whole? literal with
  | some n => toString n
  | none =>
    let (sign, digits) := match literal.toList with
      | '-' :: rest => (['-'], rest)
      | s => ([], s)
    match (scaled digits).toBinary? with
    | some x => String.ofList (sign ++ binaryText x)
    | none => literal

end Autotools.Json.Number
