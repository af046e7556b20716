/-!
Places in a YAML text and the characters that matter there: blanks, line breaks, the marks between
documents, and the characters that no text may hold.
-/

namespace FlowClient.Yaml

/-- A place in the text: how many characters, lines and columns are before it. -/
structure Place where
  index : Nat := 0
  line : Nat := 0
  column : Nat := 0
deriving DecidableEq, Repr

def Place.skip (p : Place) (n : Nat) : Place :=
  { p with index := p.index + n, column := p.column + n }

def Place.next (p : Place) : Place := p.skip 1

def Place.nextLine (p : Place) : Place := ⟨p.index + 1, p.line + 1, 0⟩

structure Cursor where
  rest : List Char
  place : Place := {}
deriving DecidableEq, Repr

def isBlank (c : Char) : Bool := c == ' ' || c == '\t'

/-- A line break, once the breaks of a text are unified. -/
def isBreak (c : Char) : Bool := c == '\n' || c == '\u2028' || c == '\u2029'

def isNameChar (c : Char) : Bool := c.isAlphanum || c == '-' || c == '_'

/-- No word goes on here: a blank, a line break or the end of the text. -/
def atGap : List Char → Bool
  | [] => true
  | c :: _ => isBlank c || isBreak c

def atDocumentStart : List Char → Bool
  | '-' :: '-' :: '-' :: rest => atGap rest
  | _ => false

def atDocumentEnd : List Char → Bool
  | '.' :: '.' :: '.' :: rest => atGap rest
  | _ => false

def atDocumentMark (place : Place) (cs : List Char) : Bool :=
  place.column == 0 && (atDocumentStart cs || atDocumentEnd cs)

namespace Cursor

def skip (k : Cursor) (n : Nat) : Cursor := ⟨k.rest.drop n, k.place.skip n⟩

def span (k : Cursor) (test : Char → Bool) : List Char × Cursor :=
  let word := k.rest.takeWhile test
  (word, k.skip word.length)

def skipWhile (k : Cursor) (test : Char → Bool) : Cursor := (k.span test).2

def endLine? (k : Cursor) : Option Cursor :=
  let k := k.skipWhile isBlank
  let k := if k.rest.head? = some '#' then k.skipWhile (!isBreak ·) else k
  match k.rest with
  | [] => some k
  | c :: rest => if isBreak c then some ⟨rest, k.place.nextLine⟩ else none

end Cursor

def isReadable (c : Char) : Bool :=
  let code := c.toNat
  code == 0x09 || code == 0x0A || code == 0x0D || (0x20 ≤ code && code ≤ 0x7E) || code == 0x85
    || (0xA0 ≤ code && code ≤ 0xFFFD) || 0x10000 ≤ code

/-- Carriage returns, with a line feed after them or not, and next-line characters become line feeds. -/
def unifyBreaks : List Char → List Char
  | '\r' :: '\n' :: rest => '\n' :: unifyBreaks rest
  | '\r' :: rest => '\n' :: unifyBreaks rest
  | c :: rest => (if c == '\u0085' then '\n' else c) :: unifyBreaks rest
  | [] => []

def Cursor.ofText? (text : String) : Option Cursor :=
  let cs := text.toList
  if cs.all isReadable then some ⟨unifyBreaks cs, {}⟩ else none

end FlowClient.Yaml
