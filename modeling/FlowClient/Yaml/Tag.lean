import FlowClient.Yaml.Cursor
import FlowClient.Yaml.Token
import FlowClient.Draft.Word

/-!
Tags and anchors of YAML nodes, and the directives before a document.
-/

namespace FlowClient.Yaml

def isTagSign (c : Char) : Bool := ";/?:@&=+$.%!~*'()".contains c

def isTagChar (full : Bool) (c : Char) : Bool :=
  isNameChar c || isTagSign c || (full && (c == ',' || c == '[' || c == ']'))

def octet? (a b : Char) : Option Nat := do
  let a ← Scalar.digitOf? 16 a
  let b ← Scalar.digitOf? 16 b
  return a * 16 + b

/-- The characters of a tag in which percent signs announce the octets of UTF-8. `left` octets are
still to come for the character that starts with `value`. -/
def decodeTag (left value : Nat) : List Char → Option (List Char)
  | [] => if left = 0 then some [] else none
  | '%' :: a :: b :: rest => do
    let o ← octet? a b
    if left = 0 then
      if o < 0x80 then return Char.ofNat o :: (← decodeTag 0 0 rest)
      else if 0xC0 ≤ o && o < 0xE0 then decodeTag 1 (o - 0xC0) rest
      else if 0xE0 ≤ o && o < 0xF0 then decodeTag 2 (o - 0xE0) rest
      else if 0xF0 ≤ o && o < 0xF8 then decodeTag 3 (o - 0xF0) rest
      else none
    else if o < 0x80 || 0xC0 ≤ o then none
    else if left = 1 then return Char.ofNat (value * 64 + (o - 0x80)) :: (← decodeTag 0 0 rest)
    else decodeTag (left - 1) (value * 64 + (o - 0x80)) rest
  | c :: rest => if left = 0 && c != '%' then do return c :: (← decodeTag 0 0 rest) else none

/-- A tag or the end of one, and the cursor after it. `start` has been read already. -/
def tagText? (full : Bool) (start : List Char) (k : Cursor) : Option (String × Cursor) := do
  let (raw, k) := k.span (isTagChar full)
  let cs ← decodeTag 0 0 raw
  return (String.ofList (start ++ cs), k)

/-- What stands between an exclamation mark and the next, if the name of a handle can stand there, and
the cursor after it. -/
def handleName (k : Cursor) : List Char × Cursor := (k.skip 1).span isNameChar

def tagToken? (flow : Bool) (k : Cursor) : Option (Token × Cursor) := do
  let (token, k) ← form k
  if atGap k.rest || (flow && k.rest.head? == some ',') then return (token, k) else none
where
  form (k : Cursor) : Option (Token × Cursor) :=
    match k.rest with
    | '!' :: '<' :: _ => do
      let (uri, k) ← tagText? true [] (k.skip 2)
      if uri != "" && k.rest.head? == some '>' then return (.tag "" uri, k.skip 1) else none
    | _ => do
      let (name, k) := handleName k
      if k.rest.head? == some '!' then
        let (rest, k) ← tagText? false [] (k.skip 1)
        if rest == "" then none else return (.tag (String.ofList ('!' :: name ++ ['!'])) rest, k)
      else
        let (rest, k) ← tagText? false name k
        return (if rest == "" then .tag "" "!" else .tag "!" rest, k)

def endsAnchor (c : Char) : Bool := "?:,]\x7d%@`".contains c

def anchorName? (k : Cursor) : Option (String × Cursor) :=
  let (name, k) := (k.skip 1).span isNameChar
  let ends := atGap k.rest || k.rest.head?.any endsAnchor
  if name.isEmpty || !ends then none else some (String.ofList name, k)

def versionNumber? (k : Cursor) : Option (Nat × Cursor) :=
  let (digits, k) := k.span Char.isDigit
  if digits.length ≤ 9 then (Scalar.natOf? 10 digits).map fun n => (n, k) else none

def versionToken? (k : Cursor) : Option (Token × Cursor) := do
  let (major, k) ← versionNumber? (k.skipWhile isBlank)
  if k.rest.head? != some '.' then none
  else
    let (minor, k) ← versionNumber? (k.skip 1)
    return (.version major minor, k)

def handleToken? (k : Cursor) : Option (Token × Cursor) := do
  let k := k.skipWhile isBlank
  if k.rest.head? != some '!' then none
  else
    let (name, k) := handleName k
    let closed := k.rest.head? == some '!'
    if !closed && !name.isEmpty then none
    else
      let k := if closed then k.skip 1 else k
      if !k.rest.head?.any isBlank then none
      else
        let (start, k) ← tagText? true [] (k.skipWhile isBlank)
        if start == "" || !atGap k.rest then none
        else return (.handle (String.ofList ('!' :: name ++ (if closed then ['!'] else []))) start, k)

def directive? (k : Cursor) : Option (Token × Cursor) := do
  let (name, k) := (k.skip 1).span isNameChar
  if !atGap k.rest then none
  else
    let (token, k) ← match String.ofList name with
      | "YAML" => versionToken? k
      | "TAG" => handleToken? k
      | _ => none
    return (token, ← k.endLine?)

end FlowClient.Yaml
