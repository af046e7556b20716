import FlowClient.Number.Shortest

/-!
Numbers in JSON texts. Reading keeps as many leading digits as 64 bits hold and scales them once by a
power of ten, so it may miss the nearest number by its last bit. Writing takes the shortest digits,
with a point where the exponent is small and always with a mark of the fraction.
-/

namespace FlowClient.Json

/-- The leading digits that 64 bits hold, and the power of ten they are scaled by. -/
structure Significand where
  digits : Nat
  exponent : Int
  full : Bool

def maxWord : Nat := 0xFFFFFFFFFFFFFFFF

/-- A digit before the point: it is taken in, or counted where there is no room. -/
def Significand.whole (s : Significand) (digit : Nat) : Significand :=
  if s.full || maxWord < s.digits * 10 + digit then { s with exponent := s.exponent + 1, full := true }
  else { s with digits := s.digits * 10 + digit }

/-- A digit after the point: it is taken in, or left out where there is no room. -/
def Significand.fraction (s : Significand) (digit : Nat) : Significand :=
  if s.full || maxWord < s.digits * 10 + digit then { s with full := true }
  else { s with digits := s.digits * 10 + digit, exponent := s.exponent - 1 }

def digitValue (c : Char) : Nat := c.toNat - 48

def digitsValue (cs : List Char) : Nat :=
  cs.foldl (fun n c => n * 10 + digitValue c) 0

def significand (whole fraction : List Char) : Significand :=
  let s : Significand := whole.foldl (fun s c => Significand.whole s (digitValue c)) ⟨0, 0, false⟩
  fraction.foldl (fun s c => Significand.fraction s (digitValue c)) { s with full := false }

/-- Scaled by a power of ten in steps that the power's own range allows; none where the result is too
large. -/
def scale? (x : Binary64) (exponent : Int) : Nat → Option Binary64
  | 0 => some x
  | left + 1 =>
    if exponent.natAbs ≤ 308 then do
      let power ← Binary64.ofRatio? false (powerOfTen exponent.natAbs) 1
      if 0 ≤ exponent then x.mul? power else x.div? power
    else if x.isZero then some x
    else if 0 ≤ exponent then none
    else do
      let power ← Binary64.ofRatio? false (powerOfTen 308) 1
      scale? (← x.div? power) (exponent + 308) left

def clampExponent (e : Int) : Int :=
  max (-2147483648) (min 2147483647 e)

def float? (negative : Bool) (whole fraction : List Char) (expNegative : Bool)
    (expDigits : List Char) : Option Binary64 := do
  let s := significand whole fraction
  let e := digitsValue expDigits
  if 2147483647 < e then
    if s.digits != 0 && !expNegative then none else some (Binary64.zero negative)
  else
    let exponent := clampExponent (if expNegative then s.exponent - e else s.exponent + e)
    let x ← Binary64.ofRatio? false s.digits 1
    let y ← scale? x exponent 4
    some { y with negative }

def digitChars (n : Nat) : List Char := Nat.toDigits 10 n

/-- The text of a floating number: positional where the point falls before the seventeenth digit and
not more than four zeros follow it, else in scientific form. -/
def floatText (x : Binary64) : String :=
  let d := x.shortest
  let digits := digitChars d.digits
  let point : Int := digits.length + d.exponent
  let body :=
    if x.isZero then ['0', '.', '0']
    else if 0 ≤ d.exponent && point ≤ 16 then
      digits ++ List.replicate d.exponent.toNat '0' ++ ['.', '0']
    else if 0 < point && point ≤ 16 then
      digits.take point.toNat ++ '.' :: digits.drop point.toNat
    else if -5 < point && point ≤ 0 then
      '0' :: '.' :: List.replicate point.natAbs '0' ++ digits
    else
      let lead := digits.take 1 ++ (if digits.length = 1 then [] else '.' :: digits.drop 1)
      let e := point - 1
      lead ++ 'e' :: (if e < 0 then ['-'] else []) ++ digitChars e.natAbs
  String.ofList ((if x.negative then ['-'] else []) ++ body)

def intText (i : Int) : String :=
  String.ofList ((if i < 0 then ['-'] else []) ++ digitChars i.natAbs)

end FlowClient.Json
