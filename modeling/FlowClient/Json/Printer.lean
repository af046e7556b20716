import FlowClient.Json.Basic
import FlowClient.Json.Number

/-!
JSON values as text, on one line or with one member a line.
-/

namespace FlowClient.Json

def escapeChar (c : Char) : List Char :=
  let n := c.toNat
  if c = '"' then ['\\', '"']
  else if c = '\\' then ['\\', '\\']
  else if c = '\n' then ['\\', 'n']
  else if c = '\r' then ['\\', 'r']
  else if c = '\t' then ['\\', 't']
  else if n = 8 then ['\\', 'b']
  else if n = 12 then ['\\', 'f']
  else if n < 32 then ['\\', 'u', '0', '0'] ++ Nat.toDigits 16 (n / 16) ++ Nat.toDigits 16 (n % 16)
  else [c]

def stringText (s : String) : String :=
  String.ofList ('"' :: s.toList.flatMap escapeChar ++ ['"'])

def print : Json → String
  | null => "null"
  | bool true => "true"
  | bool false => "false"
  | int i => intText i
  | float x => floatText x
  | str s => stringText s
  | arr items => "[" ++ ",".intercalate (printItems items) ++ "]"
  | obj members => "\x7b" ++ ",".intercalate (printMembers members) ++ "\x7d"
where
  printItems : List Json → List String
    | [] => []
    | j :: rest => j.print :: printItems rest
  printMembers : List (String × Json) → List String
    | [] => []
    | (k, j) :: rest => (stringText k ++ ":" ++ j.print) :: printMembers rest

def indentText (depth : Nat) : String :=
  String.ofList (List.replicate (2 * depth) ' ')

/-- Entries one a line between brackets; the brackets stand together where there are none. -/
def prettyBlock (opening closing : String) (depth : Nat) (entries : List String) : String :=
  if entries.isEmpty then opening ++ closing
  else
    let inner := indentText (depth + 1)
    opening ++ "\n" ++ ",\n".intercalate (entries.map (inner ++ ·)) ++ "\n" ++ indentText depth ++ closing

/-- The value with one entry a line, where its first line stands at the given depth. -/
def prettyAt (depth : Nat) : Json → String
  | arr items => prettyBlock "[" "]" depth (prettyItems depth items)
  | obj members => prettyBlock "\x7b" "\x7d" depth (prettyMembers depth members)
  | j => j.print
where
  prettyItems (depth : Nat) : List Json → List String
    | [] => []
    | j :: rest => j.prettyAt (depth + 1) :: prettyItems depth rest
  prettyMembers (depth : Nat) : List (String × Json) → List String
    | [] => []
    | (k, j) :: rest => (stringText k ++ ": " ++ j.prettyAt (depth + 1)) :: prettyMembers depth rest

def pretty (j : Json) : String := j.prettyAt 0

end FlowClient.Json
