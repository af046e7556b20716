import FlowClient.Draft.Basic

/-!
Words without quotes and the values they stand for: null and truth words, integers to base ten,
sixteen, eight and two, floating numbers, and all other words as texts.
-/

namespace FlowClient.Scalar

def isSign (c : Char) : Bool := c == '+' || c == '-'

def digitOf? (base : Nat) (c : Char) : Option Nat :=
  let value :=
    if c.isDigit then some (c.toNat - 48)
    else if 'a' ≤ c && c ≤ 'f' then some (c.toNat - 87)
    else if 'A' ≤ c && c ≤ 'F' then some (c.toNat - 55)
    else none
  value.filter (· < base)

def natOf? (base : Nat) (cs : List Char) : Option Nat :=
  if cs.isEmpty then none
  else cs.foldlM (fun n c => (digitOf? base c).map (n * base + ·)) 0

/-- Several digits with a leading zero make a text, not a number. -/
def isZeroLed (cs : List Char) : Bool :=
  let digits := match cs with
    | c :: rest => if isSign c then rest else cs
    | [] => []
  match digits with
  | '0' :: c :: rest => (c :: rest).all Char.isDigit
  | _ => false

/-- The magnitude of an integer without sign, to the base that its first two characters name. -/
def magnitude? (cs : List Char) : Option Nat :=
  match cs with
  | '0' :: 'x' :: rest => natOf? 16 rest
  | '0' :: 'o' :: rest => natOf? 8 rest
  | '0' :: 'b' :: rest => natOf? 2 rest
  | _ => if isZeroLed cs then none else natOf? 10 cs

def intWord? (cs : List Char) : Option Int :=
  match cs with
  | '+' :: rest => (magnitude? rest).map Int.ofNat
  | '-' :: rest => (magnitude? rest).map fun n => -Int.ofNat n
  | _ => (magnitude? cs).map Int.ofNat

def exponentWord? (cs : List Char) : Option Int :=
  match cs with
  | '+' :: rest => (natOf? 10 rest).map Int.ofNat
  | '-' :: rest => (natOf? 10 rest).map fun n => -Int.ofNat n
  | _ => (natOf? 10 cs).map Int.ofNat

def decimalWord? (negative : Bool) (cs : List Char) : Option Binary64 := do
  let whole := cs.takeWhile Char.isDigit
  let afterWhole := cs.dropWhile Char.isDigit
  let (fraction, tail) := match afterWhole with
    | '.' :: rest => (rest.takeWhile Char.isDigit, rest.dropWhile Char.isDigit)
    | _ => ([], afterWhole)
  let digits ← natOf? 10 (whole ++ fraction)
  let exponent ← match tail with
    | [] => some 0
    | c :: rest => if c == 'e' || c == 'E' then exponentWord? rest else none
  Binary64.ofDecimal? negative digits (exponent - fraction.length)

/-- The floating value of a word; an inner none is infinite or not a number. -/
def floatWord? (s : String) : Option (Option Binary64) :=
  if [".inf", ".Inf", ".INF", "+.inf", "+.Inf", "+.INF", "-.inf", "-.Inf", "-.INF",
      ".nan", ".NaN", ".NAN"].contains s then some none
  else match s.toList with
    | '+' :: rest => (decimalWord? false rest).map some
    | '-' :: rest => (decimalWord? true rest).map some
    | cs => (decimalWord? false cs).map some

/-- An integer as a value. Beyond 64 bits there is none, and beyond 128 bits the word is no integer. -/
def ofInt? (i : Int) : Option (Except Fault Scalar) :=
  if -0x8000000000000000 ≤ i && i < 0x10000000000000000 then some (.ok (int i))
  else if -0x80000000000000000000000000000000 ≤ i && i < 0x100000000000000000000000000000000 then
    some (.error .foreign)
  else none

def intValue? (s : String) : Option (Except Fault Scalar) :=
  (intWord? s.toList).bind ofInt?

def ofWord (s : String) : Except Fault Scalar :=
  if s == "" || isNullWord s then .ok null
  else match flagWord? s with
    | some b => .ok (flag b)
    | none => match intValue? s with
      | some value => value
      | none =>
        if isZeroLed s.toList then .ok (text s)
        else match floatWord? s with
          | some x => .ok (float x)
          | none => .ok (text s)

/-- The value with its type made up: a tag decides, else quotes make a text, else the word itself. -/
def typed : Scalar → Except Fault Scalar
  | loose s plain none => if plain then ofWord s else .ok (text s)
  | loose s _ (some tag) =>
    if tag = flagTag then (match flagWord? s with | some b => .ok (flag b) | none => .error .foreign)
    else if tag = intTag then (intValue? s).getD (.error .foreign)
    else if tag = floatTag then
      (match floatWord? s with | some x => .ok (float x) | none => .error .foreign)
    else if tag = nullTag then (if isNullWord s then .ok null else .error .foreign)
    else .ok (text s)
  | value => .ok value

end FlowClient.Scalar
