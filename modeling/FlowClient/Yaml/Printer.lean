import FlowClient.Draft.Word
import FlowClient.Json.Printer
import FlowClient.Text.Quoted

/-!
JSON values as YAML texts in block style. A text is written plain where it reads back as itself, and
in quotes or as a block where it would not. Lists are not indented under their keys.
-/

namespace FlowClient.Yaml

def isLineBreak (c : Char) : Bool :=
  c == '\n' || c == '\r' || c == '\u0085' || c == '\u2028' || c == '\u2029'

def isShown (c : Char) : Bool :=
  let code := c.toNat
  code == 0x0A || (0x20 ≤ code && code ≤ 0x7E) || (0xA0 ≤ code && code ≤ 0xFFFD && code != 0xFEFF)
    || 0x10000 ≤ code

def hasPair (first second : Char → Bool) : List Char → Bool
  | a :: b :: rest => (first a && second b) || hasPair first second (b :: rest)
  | _ => false

def isSpace (c : Char) : Bool := c == ' '

def endsWord : List Char → Bool
  | [] => true
  | c :: _ => c == ' ' || c == '\t' || isLineBreak c

def isIndicator (c : Char) : Bool := "#,[]\x7b\x7d&*!|>'\"%@`".contains c

/-- A colon that ends a word, or a number sign that starts one. `gap` tells that a word may start. -/
def hasInnerIndicator (gap : Bool) : List Char → Bool
  | [] => false
  | c :: rest =>
    (c == ':' && endsWord rest) || (c == '#' && gap) || hasInnerIndicator (endsWord [c]) rest

/-- The text would be taken for something else if it stood alone. -/
def hasIndicator (cs : List Char) : Bool :=
  match cs with
  | [] => false
  | c :: rest =>
    isIndicator c || ((c == '?' || c == ':' || c == '-') && endsWord rest)
      || ['-', '-', '-'].isPrefixOf cs || ['.', '.', '.'].isPrefixOf cs
      || hasInnerIndicator (endsWord [c]) rest

/-- A reader would not take the word for a text, or might not. -/
def isAmbiguous (s : String) : Bool :=
  match Scalar.ofWord s with
  | .ok (.text _) => Scalar.isZeroLed s.toList
  | _ => true

inductive Style
  | plain
  | singleQuoted
  | doubleQuoted
  | literal
deriving DecidableEq, Repr

def needsEscapes (cs : List Char) : Bool := !cs.all isShown || hasPair isSpace isLineBreak cs

def isPlain (s : String) : Bool :=
  let cs := s.toList
  !isAmbiguous s && !hasIndicator cs && !cs.any isLineBreak && cs.head? != some ' '
    && cs.getLast? != some ' '

/-- The style of a text. Keys stay in one line. -/
def styleOf (isKey : Bool) (s : String) : Style :=
  let cs := s.toList
  if needsEscapes cs || (isKey && cs.any isLineBreak) then .doubleQuoted
  else if cs.contains '\n' then (if cs.getLast? == some ' ' then .doubleQuoted else .literal)
  else if isPlain s then .plain
  else if hasPair isLineBreak isSpace cs then .doubleQuoted
  else .singleQuoted

def hexCapitals (width n : Nat) : List Char :=
  let digits := (Text.hex n).map Char.toUpper
  List.replicate (width - digits.length) '0' ++ digits

def shortEscape? (c : Char) : Option Char :=
  if c == '\x00' then some '0'
  else if c == '\x07' then some 'a'
  else if c == '\x08' then some 'b'
  else if c == '\t' then some 't'
  else if c == '\n' then some 'n'
  else if c == '\x0b' then some 'v'
  else if c == '\x0c' then some 'f'
  else if c == '\r' then some 'r'
  else if c == '\x1b' then some 'e'
  else if c == '"' then some '"'
  else if c == '\\' then some '\\'
  else if c == '\u0085' then some 'N'
  else if c == '\u00a0' then some '_'
  else if c == '\u2028' then some 'L'
  else if c == '\u2029' then some 'P'
  else none

def escape (c : Char) : List Char :=
  if isShown c && !isLineBreak c && c != '"' && c != '\\' then [c]
  else match shortEscape? c with
    | some e => ['\\', e]
    | none =>
      if c.toNat ≤ 0xFF then '\\' :: 'x' :: hexCapitals 2 c.toNat
      else if c.toNat ≤ 0xFFFF then '\\' :: 'u' :: hexCapitals 4 c.toNat
      else '\\' :: 'U' :: hexCapitals 8 c.toNat

def spaces (n : Nat) : List Char := List.replicate n ' '

/-- The text with every line after a line break indented, empty lines apart. `fresh` tells that a line
break was the last thing. -/
def indented (indent : Nat) (fresh : Bool) : List Char → List Char
  | [] => []
  | c :: rest =>
    if isLineBreak c then c :: indented indent true rest
    else (if fresh then spaces indent else []) ++ c :: indented indent false rest

def singleQuotedText (indent : Nat) (cs : List Char) : List Char :=
  let doubled := cs.flatMap fun c => if c == '\'' then ['\'', '\''] else [c]
  let tail := if cs.getLast?.any isLineBreak then spaces indent else []
  '\'' :: indented indent false doubled ++ tail ++ ['\'']

def blockHints (cs : List Char) : List Char :=
  let indentation := if cs.head?.any fun c => isSpace c || isLineBreak c then ['2'] else []
  let ending := match cs.reverse with
    | [] => ['-']
    | last :: before =>
      if !isLineBreak last then ['-']
      else if before.head?.all isLineBreak then ['+']
      else []
  indentation ++ ending

def literalText (indent : Nat) (cs : List Char) : List Char :=
  let tail := if cs.getLast?.any isLineBreak then [] else ['\n']
  '|' :: blockHints cs ++ '\n' :: indented indent true cs ++ tail

/-- A text without the end of its line; a block ends its line itself. -/
def scalarText (isKey : Bool) (indent : Nat) (s : String) : String × Bool :=
  match styleOf isKey s with
  | .plain => (s, false)
  | .singleQuoted => (String.ofList (singleQuotedText indent s.toList), false)
  | .doubleQuoted => (String.ofList ('"' :: s.toList.flatMap escape ++ ['"']), false)
  | .literal => (String.ofList (literalText indent s.toList), true)

end FlowClient.Yaml

namespace FlowClient.Json

open Yaml (scalarText spaces)

def margin (indent : Nat) : String := String.ofList (spaces indent)

def yamlScalar (indent : Nat) : Json → String
  | .str s =>
    let (text, ended) := scalarText false indent s
    if ended then text else text ++ "\n"
  | .arr _ => "[]\n"
  | .obj _ => "\x7b\x7d\n"
  | j => j.print ++ "\n"

def yamlKey (key : String) : String := (scalarText true 0 key).1 ++ ":"

/-- The value as lines of YAML, of which the first starts where it stands and the others are indented. -/
def yamlAt (indent : Nat) : Json → String
  | arr (j :: rest) =>
    "- " ++ j.yamlAt (indent + 2) ++ yamlItems indent rest
  | obj ((k, j) :: rest) =>
    yamlKey k ++ yamlMember indent j ++ yamlMembers indent rest
  | j => yamlScalar indent j
where
  yamlItems (indent : Nat) : List Json → String
    | [] => ""
    | j :: rest => margin indent ++ "- " ++ j.yamlAt (indent + 2) ++ yamlItems indent rest
  yamlMembers (indent : Nat) : List (String × Json) → String
    | [] => ""
    | (k, j) :: rest => margin indent ++ yamlKey k ++ yamlMember indent j ++ yamlMembers indent rest
  yamlMember (indent : Nat) : Json → String
    | arr (j :: rest) => "\n" ++ margin indent ++ "- " ++ j.yamlAt (indent + 2) ++ yamlItems indent rest
    | obj ((k, j) :: rest) =>
      "\n" ++ margin (indent + 2) ++ yamlKey k ++ yamlMember (indent + 2) j ++
        yamlMembers (indent + 2) rest
    | j => " " ++ yamlScalar (indent + 2) j

def yaml (j : Json) : String := j.yamlAt 0

end FlowClient.Json
