import FlowClient.Yaml.Scalar
import FlowClient.Yaml.Tag

/-!
The tokens of a YAML text. Whether a word is a key shows only at the colon after it, so the place of a
word that may be one is noted, and the tokens before a key are put in there when the colon comes.
-/

namespace FlowClient.Yaml

/-- A word or a bracket that may turn out to start a key: how many tokens are before it, where it
starts, and whether nothing else may stand there. -/
structure Candidate where
  before : Nat
  start : Place
  required : Bool
deriving DecidableEq, Repr

/-- A key ends in its own line, not too far from its start. -/
def Candidate.isStale (c : Candidate) (place : Place) : Bool :=
  c.start.line < place.line || c.start.index + 1024 < place.index

structure Lexer where
  cursor : Cursor
  tokens : Array Token := #[]
  /-- The columns of the blocks that are open, the innermost first. -/
  blocks : List Nat := []
  /-- What may be a key between the innermost brackets. -/
  candidate : Option Candidate := none
  /-- The same for the brackets around those, and for the block around them. -/
  outer : List (Option Candidate) := []
  keyAllowed : Bool := true

/-- Passes over blanks, comments and line breaks; tells too whether a key may start after them. Tabs
do not count as blanks where a key may start in a block. -/
def skipGap (flow comment keyAllowed : Bool) (place : Place) : List Char → Cursor × Bool
  | [] => (⟨[], place⟩, keyAllowed)
  | c :: rest =>
    if isBreak c then skipGap flow false (keyAllowed || !flow) place.nextLine rest
    else if comment || c == '#' then skipGap flow true keyAllowed place.next rest
    else if c == ' ' || (c == '\t' && (flow || !keyAllowed))
        || (c == '\ufeff' && place.index == 0) then
      skipGap flow false keyAllowed place.next rest
    else (⟨c :: rest, place⟩, keyAllowed)

namespace Lexer

def inFlow (s : Lexer) : Bool := !s.outer.isEmpty

def place (s : Lexer) : Place := s.cursor.place

def emit (s : Lexer) (t : Token) : Lexer := { s with tokens := s.tokens.push t }

def accept (s : Lexer) (t : Token) (k : Cursor) : Lexer := { s.emit t with cursor := k }

def allowKey (s : Lexer) (allowed : Bool) : Lexer := { s with keyAllowed := allowed }

def dropCandidate? (s : Lexer) : Option Lexer :=
  if s.candidate.any (·.required) then none else some { s with candidate := none }

/-- What starts here may be a key. In a block it must be one where it starts in the block's column. -/
def noteCandidate? (s : Lexer) : Option Lexer :=
  if s.keyAllowed then do
    let s ← s.dropCandidate?
    let required := !s.inFlow && s.blocks.head? == some s.place.column
    return { s with candidate := some ⟨s.tokens.size, s.place, required⟩ }
  else some s

def expire? (place : Place) : Option Candidate → Option (Option Candidate)
  | none => some none
  | some c => if c.isStale place then (if c.required then none else some none) else some (some c)

def expireAll? (s : Lexer) : Option Lexer := do
  let candidate ← expire? s.place s.candidate
  let outer ← s.outer.mapM (expire? s.place)
  return { s with candidate, outer }

/-- A block opens in a column, unless one is open there, with the token put in at the given place. -/
def openBlock (s : Lexer) (column before : Nat) (t : Token) : Lexer :=
  if s.inFlow || s.blocks.head?.any (column ≤ ·) then s
  else { s with blocks := column :: s.blocks, tokens := s.tokens.insertIdxIfInBounds before t }

def closeBlocks (s : Lexer) (test : Nat → Bool) : Lexer :=
  if s.inFlow then s
  else
    let closed := s.blocks.takeWhile test
    { s with blocks := s.blocks.dropWhile test,
             tokens := s.tokens ++ closed.map fun _ => Token.blockEnd }

def closeInner (s : Lexer) : Lexer := s.closeBlocks (s.place.column < ·)

def closeDocument? (s : Lexer) : Option Lexer := do
  return (← (s.closeBlocks fun _ => true).dropCandidate?).allowKey false

def settle? (s : Lexer) : Option Lexer := do
  let (cursor, keyAllowed) := skipGap s.inFlow false s.keyAllowed s.place s.cursor.rest
  return (← { s with cursor, keyAllowed }.expireAll?).closeInner

def documentMark? (s : Lexer) (t : Token) : Option Lexer := do
  return (← s.closeDocument?).accept t (s.cursor.skip 3)

def directive? (s : Lexer) : Option Lexer := do
  let s ← s.closeDocument?
  let (t, k) ← Yaml.directive? s.cursor
  return s.accept t k

def openFlow? (s : Lexer) (t : Token) : Option Lexer := do
  let s ← s.noteCandidate?
  let s := { s with outer := s.candidate :: s.outer, candidate := none }
  return (s.allowKey true).accept t (s.cursor.skip 1)

def closeFlow? (s : Lexer) (t : Token) : Option Lexer := do
  let s ← s.dropCandidate?
  let s := match s.outer with
    | candidate :: outer => { s with candidate, outer }
    | [] => s
  return (s.allowKey false).accept t (s.cursor.skip 1)

def comma? (s : Lexer) : Option Lexer := do
  return ((← s.dropCandidate?).allowKey true).accept .comma (s.cursor.skip 1)

def item? (s : Lexer) : Option Lexer := do
  if !s.inFlow && !s.keyAllowed then none
  else
    let s ← (s.openBlock s.place.column s.tokens.size .blockList).dropCandidate?
    return (s.allowKey true).accept .item (s.cursor.skip 1)

def key? (s : Lexer) : Option Lexer := do
  if !s.inFlow && !s.keyAllowed then none
  else
    let s ← (s.openBlock s.place.column s.tokens.size .blockMap).dropCandidate?
    return (s.allowKey (!s.inFlow)).accept .key (s.cursor.skip 1)

def value? (s : Lexer) : Option Lexer :=
  match s.candidate with
  | some c =>
    let s := { s with tokens := s.tokens.insertIdxIfInBounds c.before .key, candidate := none }
    let s := s.openBlock c.start.column c.before .blockMap
    some ((s.allowKey false).accept .value (s.cursor.skip 1))
  | none =>
    if !s.inFlow && !s.keyAllowed then none
    else
      let s := s.openBlock s.place.column s.tokens.size .blockMap
      some ((s.allowKey (!s.inFlow)).accept .value (s.cursor.skip 1))

def property? (s : Lexer) (read : Cursor → Option (Token × Cursor)) : Option Lexer := do
  let s ← s.noteCandidate?
  let (t, k) ← read s.cursor
  return (s.allowKey false).accept t k

def quoted? (s : Lexer) (read : Cursor → Option Scanned) : Option Lexer :=
  s.property? fun k => (read (k.skip 1)).map fun (text, k) => (.scalar text false, k)

def blockText? (s : Lexer) (folds : Bool) : Option Lexer := do
  let s ← s.dropCandidate?
  let (text, k) ← block folds s.blocks.head? (s.cursor.skip 1)
  return (s.allowKey true).accept (.scalar text false) k

def plain? (s : Lexer) : Option Lexer := do
  let s ← s.noteCandidate?
  let margin := match s.blocks.head? with
    | some column => column + 1
    | none => 0
  let ((text, k), broken) ← plain s.inFlow margin s.place (.blanks []) [] s.cursor.rest
  return (s.allowKey broken).accept (.scalar text true) k

def startsPlain (flow : Bool) : List Char → Bool
  | [] => false
  | c :: rest =>
    if c == '-' then !atGap rest
    else if c == '?' || c == ':' then !flow && !atGap rest
    else !("[]\x7b\x7d,#&*!|>'\"%@`".contains c) && !isBlank c && !isBreak c

def next? (s : Lexer) : Option Lexer :=
  if s.place.column == 0 && s.cursor.rest.head? == some '%' then s.directive?
  else if s.place.column == 0 && atDocumentStart s.cursor.rest then s.documentMark? .documentStart
  else if s.place.column == 0 && atDocumentEnd s.cursor.rest then s.documentMark? .documentEnd
  else match s.cursor.rest with
  | '[' :: _ => s.openFlow? .listStart
  | '{' :: _ => s.openFlow? .mapStart
  | ']' :: _ => s.closeFlow? .listEnd
  | '}' :: _ => s.closeFlow? .mapEnd
  | ',' :: _ => s.comma?
  | '*' :: _ => s.property? fun k => (anchorName? k).map fun (name, k) => (.alias name, k)
  | '&' :: _ => s.property? fun k => (anchorName? k).map fun (name, k) => (.anchor name, k)
  | '!' :: _ => s.property? (tagToken? s.inFlow)
  | '\'' :: _ => s.quoted? fun k => singleQuoted k.place (.blanks []) [] k.rest
  | '"' :: _ => s.quoted? fun k => doubleQuoted k.place (.blanks []) [] .none k.rest
  | c :: rest =>
    if c == '-' && atGap rest then s.item?
    else if c == '?' && (s.inFlow || atGap rest) then s.key?
    else if c == ':' && (s.inFlow || atGap rest) then s.value?
    else if (c == '|' || c == '>') && !s.inFlow then s.blockText? (c == '>')
    else if startsPlain s.inFlow (c :: rest) then s.plain?
    else none
  | [] => none

/-- The tokens up to the end of the text. Each takes a character at least, so `fuel` need only exceed
the number of characters. -/
def run? (fuel : Nat) (s : Lexer) : Option (Array Token) :=
  match fuel with
  | 0 => none
  | fuel + 1 => do
    let s ← s.settle?
    if s.cursor.rest.isEmpty then return (← s.closeDocument?).tokens
    else run? fuel (← s.next?)

end Lexer

def tokens? (text : String) : Option (Array Token) := do
  let cursor ← Cursor.ofText? text
  Lexer.run? (cursor.rest.length + 1) { cursor }

end FlowClient.Yaml
