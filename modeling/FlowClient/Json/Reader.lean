import FlowClient.Draft.Read

/-!
JSON texts as drafts. The text is scanned to its end or to its first fault, and the draft ends there
too. Strings with half a surrogate pair and numbers out of range are flawed, but may be passed over.
-/

namespace FlowClient.JsonText

/-- A value and the text after it, which is none where the text cannot be read on. -/
abbrev Scan (α : Type) := α × Option (List Char)

def broken (f : Fault) : Scan Draft := (.flawed f (some f), none)

def isBlank (c : Char) : Bool := c == ' ' || c == '\n' || c == '\t' || c == '\r'

def skipBlanks (cs : List Char) : List Char := cs.dropWhile isBlank

def hexValue? (c : Char) : Option Nat := Scalar.digitOf? 16 c

def hexCode? (a b c d : Char) : Option Nat := do
  let a ← hexValue? a
  let b ← hexValue? b
  let c ← hexValue? c
  let d ← hexValue? d
  return ((a * 16 + b) * 16 + c) * 16 + d

def shortEscape? (c : Char) : Option Char :=
  match c with
  | '"' => some '"'
  | '\\' => some '\\'
  | '/' => some '/'
  | 'b' => some '\x08'
  | 'f' => some '\x0c'
  | 'n' => some '\n'
  | 'r' => some '\r'
  | 't' => some '\t'
  | _ => none

/-- What a string has shown so far: its characters, last one first, the first half of a surrogate pair
that waits for the second, and whether a half was found alone. -/
structure Inside where
  chars : List Char := []
  high : Option Nat := none
  lone : Bool := false

namespace Inside

/-- The half that waits stays alone. -/
def settle (s : Inside) : Inside := { s with high := none, lone := s.lone || s.high.isSome }

def push (s : Inside) (c : Char) : Inside := let s := s.settle; { s with chars := c :: s.chars }

def pushCode (s : Inside) (code : Nat) : Inside :=
  if 0xDC00 ≤ code && code ≤ 0xDFFF then
    match s.high with
    | some h =>
      { s with high := none,
               chars := Char.ofNat (0x10000 + (h - 0xD800) * 0x400 + (code - 0xDC00)) :: s.chars }
    | none => { s with lone := true }
  else if 0xD800 ≤ code && code ≤ 0xDBFF then { s.settle with high := some code }
  else s.push (Char.ofNat code)

/-- The text breaks off in the string. A half found alone comes before. -/
def broken (s : Inside) (f : Fault) : Scan Draft :=
  (.flawed (if s.lone then .malformed else f) (some f), none)

def draft (s : Inside) : Draft :=
  let s := s.settle
  if s.lone then .flawed .malformed none else .scalar (.text (String.ofList s.chars.reverse))

end Inside

def byteCount (cs : List Char) : Nat := (String.ofList cs).utf8ByteSize

def string (s : Inside) : List Char → Scan Draft
  | [] => s.broken .truncated
  | '"' :: rest => (s.draft, some rest)
  | '\\' :: 'u' :: a :: b :: c :: d :: rest =>
    match hexCode? a b c d with
    | some code => string (s.pushCode code) rest
    | none => s.broken .malformed
  | '\\' :: 'u' :: rest => s.broken (if byteCount rest < 4 then .truncated else .malformed)
  | '\\' :: c :: rest =>
    match shortEscape? c with
    | some e => string (s.push e) rest
    | none => s.broken .malformed
  | ['\\'] => s.broken .truncated
  | c :: rest => if c.toNat < 32 then s.settle.broken .malformed else string (s.push c) rest

/-- A number that lacks a digit. Where the text ends there, a reader finds it truncated. -/
def lackingDigit (rest : List Char) : Scan Draft :=
  (.flawed (if rest.isEmpty then .truncated else .malformed) (some .malformed), none)

/-- The value of an integer; one beyond 64 bits and a negative zero are floating numbers. -/
def integer (negative : Bool) (whole : List Char) : Draft :=
  let n := Json.digitsValue whole
  if !negative && n ≤ Json.maxWord then .scalar (.int n)
  else if negative && n != 0 && n ≤ 0x8000000000000000 then .scalar (.int (-n))
  else match Json.float? negative whole [] false [] with
    | some x => .scalar (.float (some x))
    | none => .flawed .malformed none

def floating (negative : Bool) (whole fraction : List Char) (expNegative : Bool)
    (exponent : List Char) : Draft :=
  match Json.float? negative whole fraction expNegative exponent with
  | some x => .scalar (.float (some x))
  | none => .flawed .malformed none

def exponent (negative : Bool) (whole fraction : List Char) (cs : List Char) : Scan Draft :=
  let (expNegative, rest) := match cs with
    | '+' :: rest => (false, rest)
    | '-' :: rest => (true, rest)
    | _ => (false, cs)
  let digits := rest.takeWhile Char.isDigit
  if digits.isEmpty then lackingDigit rest
  else (floating negative whole fraction expNegative digits, some (rest.dropWhile Char.isDigit))

def afterFraction (negative : Bool) (whole fraction : List Char) (cs : List Char) : Scan Draft :=
  match cs with
  | 'e' :: rest => exponent negative whole fraction rest
  | 'E' :: rest => exponent negative whole fraction rest
  | rest =>
    if fraction.isEmpty then (integer negative whole, some rest)
    else (floating negative whole fraction false [], some rest)

def magnitude (negative : Bool) (cs : List Char) : Scan Draft :=
  let whole := cs.takeWhile Char.isDigit
  let rest := cs.dropWhile Char.isDigit
  if whole.isEmpty then lackingDigit cs
  else if whole.head? = some '0' && 1 < whole.length then broken .malformed
  else match rest with
    | '.' :: tail =>
      let fraction := tail.takeWhile Char.isDigit
      if fraction.isEmpty then lackingDigit tail
      else afterFraction negative whole fraction (tail.dropWhile Char.isDigit)
    | _ => afterFraction negative whole [] rest

def word (value : Scalar) : List Char → List Char → Scan Draft
  | [], rest => (.scalar value, some rest)
  | _ :: _, [] => broken .truncated
  | w :: ws, c :: rest => if w = c then word value ws rest else broken .malformed

mutual

def value (fuel room : Nat) (cs : List Char) : Scan Draft :=
  match fuel with
  | 0 => broken .malformed
  | fuel + 1 =>
    match skipBlanks cs with
    | [] => broken .truncated
    | '"' :: rest => string {} rest
    | '-' :: rest => magnitude true rest
    | 'n' :: rest => word .null ['u', 'l', 'l'] rest
    | 't' :: rest => word (.flag true) ['r', 'u', 'e'] rest
    | 'f' :: rest => word (.flag false) ['a', 'l', 's', 'e'] rest
    | '[' :: rest =>
      let (items, rest) := firstItem fuel (room - 1) rest
      (.array room (some .malformed) items, rest)
    | '{' :: rest =>
      let (members, rest) := firstMember fuel (room - 1) rest
      (.object room members, rest)
    | c :: rest => if c.isDigit then magnitude false (c :: rest) else broken .malformed

def firstItem (fuel room : Nat) (cs : List Char) : Scan Items :=
  match fuel with
  | 0 => (.cut .malformed, none)
  | fuel + 1 =>
    match skipBlanks cs with
    | [] => (.cut .truncated, none)
    | ']' :: rest => (.closed, some rest)
    | cs => item fuel room cs

def item (fuel room : Nat) (cs : List Char) : Scan Items :=
  match fuel with
  | 0 => (.cut .malformed, none)
  | fuel + 1 =>
    match value fuel room cs with
    | (d, none) => (.cons d .closed, none)
    | (d, some rest) =>
      match skipBlanks rest with
      | [] => (.cons d (.cut .truncated), none)
      | ']' :: rest => (.cons d .closed, some rest)
      | ',' :: rest =>
        let (items, rest) := item fuel room rest
        (.cons d items, rest)
      | _ => (.cons d (.cut .malformed), none)

def firstMember (fuel room : Nat) (cs : List Char) : Scan Members :=
  match fuel with
  | 0 => (.cut .malformed, none)
  | fuel + 1 =>
    match skipBlanks cs with
    | '}' :: rest => (.closed, some rest)
    | cs => member fuel room cs

def member (fuel room : Nat) (cs : List Char) : Scan Members :=
  match fuel with
  | 0 => (.cut .malformed, none)
  | fuel + 1 =>
    match skipBlanks cs with
    | [] => (.cut .truncated, none)
    | '"' :: rest =>
      match string {} rest with
      | (key, none) => (.cons key (.scalar .null) .closed, none)
      | (key, some rest) =>
        match skipBlanks rest with
        | [] => (.cons key (broken .truncated).1 .closed, none)
        | ':' :: rest =>
          match value fuel room rest with
          | (d, none) => (.cons key d .closed, none)
          | (d, some rest) =>
            match skipBlanks rest with
            | [] => (.cons key d (.cut .truncated), none)
            | '}' :: rest => (.cons key d .closed, some rest)
            | ',' :: rest =>
              let (members, rest) := member fuel room rest
              (.cons key d members, rest)
            | _ => (.cons key d (.cut .malformed), none)
        | _ => (.cons key (broken .malformed).1 .closed, none)
    | _ => (.cut .malformed, none)

end

def maxDepth : Nat := 127

def scan (text : String) : Scan Draft :=
  let cs := text.toList
  value (3 * cs.length + 3) maxDepth cs

/-- The value of a JSON text, by the given reading. Nothing but blanks may follow the value. -/
def read {α : Type} (reading : Draft → Reading α) (text : String) : Except Fault α := do
  let (d, rest) := scan text
  let a ← (reading d).result 0
  match rest with
  | none => throw .malformed
  | some rest => if (skipBlanks rest).isEmpty then return a else throw .malformed

end FlowClient.JsonText
