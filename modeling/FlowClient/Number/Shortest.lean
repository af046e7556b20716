import FlowClient.Number.Binary64

/-!
The shortest decimal that reads back as a given binary64 number. Of the decimals with the fewest
digits the nearest is taken.
-/

namespace FlowClient.Binary64

structure Decimal where
  digits : Nat
  exponent : Int
deriving DecidableEq, Repr

/-- The numbers that round to `x` lie between these two, in quarters of a smallest unit. The gap below
a power of two is half as wide. -/
def bounds (x : Binary64) : Nat × Nat :=
  let step := 1 <<< x.scale
  let below := if x.mantissa = hiddenBit && x.scale != 0 then step else 2 * step
  (4 * x.units - below, 4 * x.units + 2 * step)

/-- `num / den` quarters of a unit round to `x`; the bounds themselves do so where the mantissa is
even. -/
def rounds (x : Binary64) (num den : Nat) : Bool :=
  let (low, high) := x.bounds
  if x.mantissa % 2 == 0 then low * den ≤ num && num ≤ high * den
  else low * den < num && num < high * den

/-- The least `k` with `x < 10 ^ k`, for a number other than zero. -/
def order (x : Binary64) : Int :=
  let whole := x.units / unitsPerOne
  if whole = 0 then
    let inverse := (unitsPerOne + x.units - 1) / x.units
    1 - (Nat.toDigits 10 (inverse - 1)).length
  else (Nat.toDigits 10 whole).length

/-- The decimal with unit `10 ^ exponent` next to `x` that reads back as `x`, if there is one. -/
def onGrid? (x : Binary64) (exponent : Int) : Option Decimal :=
  let num := if 0 ≤ exponent then x.units else x.units * powerOfTen exponent.natAbs
  let den := if 0 ≤ exponent then unitsPerOne * powerOfTen exponent.toNat else unitsPerOne
  let reads (digits : Nat) : Bool :=
    if 0 ≤ exponent then x.rounds (4 * digits * unitsPerOne * powerOfTen exponent.toNat) 1
    else x.rounds (4 * digits * unitsPerOne) (powerOfTen exponent.natAbs)
  let low := num / den
  let near := divideToEven num den
  let far := if near = low then low + 1 else low
  if reads near then some ⟨near, exponent⟩
  else if reads far then some ⟨far, exponent⟩
  else none

def searchFrom (x : Binary64) (count : Nat) : Nat → Decimal
  | 0 => ⟨divideToEven (x.units * powerOfTen 17) unitsPerOne, -17⟩
  | left + 1 =>
    match x.onGrid? (x.order - count) with
    | some d => d
    | none => x.searchFrom (count + 1) left

def Decimal.trim (d : Decimal) : Nat → Decimal
  | 0 => d
  | left + 1 =>
    if d.digits != 0 && d.digits % 10 == 0 then
      Decimal.trim ⟨d.digits / 10, d.exponent + 1⟩ left
    else d

/-- The shortest decimal that reads back as the magnitude of `x`. -/
def shortest (x : Binary64) : Decimal :=
  if x.isZero then ⟨0, 0⟩ else (x.searchFrom 1 17).trim 20

end FlowClient.Binary64
