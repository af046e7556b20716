/-!
Finite binary64 numbers in exact arithmetic. A number is `mantissa * 2 ^ scale` smallest units, where
the smallest unit is `2 ^ -1074`; rounding goes to the nearest number and a tie to the even mantissa.
-/

namespace FlowClient

def powerOfTen (n : Nat) : Nat := Nat.pow 10 n

/-- A finite binary64 number. The mantissa has 53 bits, or fewer where the scale is zero. -/
structure Binary64 where
  negative : Bool
  mantissa : Nat
  scale : Nat
deriving DecidableEq, Repr, Inhabited

namespace Binary64

def unitsPerOne : Nat := 1 <<< 1074

def hiddenBit : Nat := 1 <<< 52

def maxScale : Nat := 2045

def zero (negative : Bool) : Binary64 := ⟨negative, 0, 0⟩

def isZero (x : Binary64) : Bool := x.mantissa == 0

/-- The magnitude in smallest units. -/
def units (x : Binary64) : Nat := x.mantissa <<< x.scale

/-- The quotient rounded to the nearest natural number, a tie to the even one. -/
def divideToEven (num den : Nat) : Nat :=
  let q := num / den
  let r := num % den
  if den < 2 * r || (2 * r == den && q % 2 == 1) then q + 1 else q

/-- The number nearest to `num / den` smallest units; none where it is too large. -/
def ofUnits? (negative : Bool) (num den : Nat) : Option Binary64 :=
  let scale := (num / den).log2 - 52
  let mantissa := divideToEven num (den <<< scale)
  let (mantissa, scale) := if mantissa = 2 * hiddenBit then (hiddenBit, scale + 1) else (mantissa, scale)
  if maxScale < scale then none else some ⟨negative, mantissa, scale⟩

def ofRatio? (negative : Bool) (num den : Nat) : Option Binary64 :=
  ofUnits? negative (num * unitsPerOne) den

def mul? (x y : Binary64) : Option Binary64 :=
  ofUnits? (x.negative != y.negative) (x.units * y.units) unitsPerOne

def div? (x y : Binary64) : Option Binary64 :=
  ofUnits? (x.negative != y.negative) (x.units * unitsPerOne) y.units

/-- The number nearest to `digits * 10 ^ exponent`. Exponents far outside the range are decided
without writing the power out. -/
def ofDecimal? (negative : Bool) (digits : Nat) (exponent : Int) : Option Binary64 :=
  let order := exponent + (Nat.toDigits 10 digits).length
  if digits = 0 || order < -400 then some (zero negative)
  else if 400 < order then none
  else if 0 ≤ exponent then ofRatio? negative (digits * powerOfTen exponent.toNat) 1
  else ofRatio? negative digits (powerOfTen exponent.natAbs)

end Binary64

end FlowClient
