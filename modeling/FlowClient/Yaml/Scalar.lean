import FlowClient.Yaml.Cursor
import FlowClient.Draft.Word

/-!
The texts of YAML scalars: plain, in single or double quotes, and in blocks. In the first three a line
break between words is folded to a space, and further breaks are kept.
-/

namespace FlowClient.Yaml

/-- White space between the words of a text, last character first. -/
inductive Gap
  | blanks (cs : List Char)
  | breaks (first : Option Char) (later : List Char)
deriving DecidableEq, Repr

namespace Gap

def isEmpty : Gap → Bool
  | blanks cs => cs.isEmpty
  | breaks _ _ => false

def isBroken : Gap → Bool
  | blanks _ => false
  | breaks _ _ => true

/-- One more blank. Those next to line breaks are dropped. -/
def blank (c : Char) : Gap → Gap
  | blanks cs => blanks (c :: cs)
  | breaks first later => breaks first later

def lineBreak (c : Char) : Gap → Gap
  | blanks _ => breaks (some c) []
  | breaks first later => breaks first (c :: later)

def folded : Gap → List Char
  | blanks cs => cs
  | breaks none later => later
  | breaks (some c) later =>
    if c == '\n' then (if later.isEmpty then [' '] else later) else later ++ [c]

end Gap

abbrev Scanned := String × Cursor

def reversed (out : List Char) : String := String.ofList out.reverse

def isFlowEnd (c : Char) : Bool := c == ',' || c == '[' || c == ']' || c == '\x7b' || c == '\x7d'

/-- After white space, a plain text goes no further than here. In a block it ends before the margin. -/
def endsAfterGap (flow : Bool) (margin : Nat) (place : Place) (cs : List Char) : Bool :=
  (!flow && place.column < margin) || atDocumentMark place cs || cs.head? == some '#'

def endsPlain (flow : Bool) (cs : List Char) : Bool :=
  match cs with
  | [] => true
  | c :: rest => (c == ':' && atGap rest) || (flow && isFlowEnd c)

/-- A colon that runs into an indicator is in error inside brackets. -/
def clashes (cs : List Char) : Bool :=
  match cs with
  | ':' :: c :: _ => isFlowEnd c || c == '?'
  | _ => false

/-- A plain text, the cursor after it and the white space that follows, and whether a line has ended
there. In a block, lines that go on must reach the margin. -/
def plain (flow : Bool) (margin : Nat) (place : Place) (gap : Gap) (out : List Char) :
    List Char → Option (Scanned × Bool)
  | [] => some ((reversed out, ⟨[], place⟩), gap.isBroken)
  | c :: rest =>
    if isBlank c then
      if gap.isBroken && place.column < margin && c == '\t' then none
      else plain flow margin place.next (gap.blank c) out rest
    else if isBreak c then plain flow margin place.nextLine (gap.lineBreak c) out rest
    else if !gap.isEmpty && endsAfterGap flow margin place (c :: rest) then
      some ((reversed out, ⟨c :: rest, place⟩), gap.isBroken)
    else if flow && clashes (c :: rest) then none
    else if endsPlain flow (c :: rest) then
      some ((reversed out, ⟨c :: rest, place⟩), gap.isBroken)
    else plain flow margin place.next (.blanks []) (c :: (gap.folded ++ out)) rest

def singleQuoted (place : Place) (gap : Gap) (out : List Char) : List Char → Option Scanned
  | [] => none
  | '\'' :: '\'' :: rest => singleQuoted (place.skip 2) (.blanks []) ('\'' :: (gap.folded ++ out)) rest
  | '\'' :: rest => some (reversed (gap.folded ++ out), ⟨rest, place.next⟩)
  | c :: rest =>
    if isBlank c then singleQuoted place.next (gap.blank c) out rest
    else if isBreak c then singleQuoted place.nextLine (gap.lineBreak c) out rest
    else if atDocumentMark place (c :: rest) then none
    else singleQuoted place.next (.blanks []) (c :: (gap.folded ++ out)) rest

def escaped? (c : Char) : Option Char :=
  match c with
  | '0' => some '\x00'
  | 'a' => some '\x07'
  | 'b' => some '\x08'
  | 't' => some '\t'
  | '\t' => some '\t'
  | 'n' => some '\n'
  | 'v' => some '\x0b'
  | 'f' => some '\x0c'
  | 'r' => some '\r'
  | 'e' => some '\x1b'
  | ' ' => some ' '
  | '"' => some '"'
  | '/' => some '/'
  | '\\' => some '\\'
  | 'N' => some '\u0085'
  | '_' => some '\u00a0'
  | 'L' => some '\u2028'
  | 'P' => some '\u2029'
  | _ => none

def codeLength? (c : Char) : Option Nat :=
  match c with
  | 'x' => some 2
  | 'u' => some 4
  | 'U' => some 8
  | _ => none

/-- The character of a code, which must not be half of a pair. -/
def charOf? (code : Nat) : Option Char :=
  if code.isValidChar then some (Char.ofNat code) else none

inductive Escape
  | none
  | letter
  /-- Hexadecimal digits, at least one of which is still to come, and the code so far. -/
  | code (left value : Nat)
deriving DecidableEq, Repr

/-- A text after its opening double quote. A backslash names characters, and drops a line break. -/
def doubleQuoted (place : Place) (gap : Gap) (out : List Char) (escape : Escape) :
    List Char → Option Scanned
  | [] => none
  | c :: rest =>
    match escape with
    | .letter =>
      if isBreak c then doubleQuoted place.nextLine (.breaks none []) out .none rest
      else match codeLength? c with
        | some n => doubleQuoted place.next gap out (.code n 0) rest
        | none => do
          let e ← escaped? c
          doubleQuoted place.next gap (e :: out) .none rest
    | .code left value => do
      let d ← FlowClient.Scalar.digitOf? 16 c
      if left ≤ 1 then
        let e ← charOf? (value * 16 + d)
        doubleQuoted place.next gap (e :: out) .none rest
      else doubleQuoted place.next gap out (.code (left - 1) (value * 16 + d)) rest
    | .none =>
      if isBlank c then doubleQuoted place.next (gap.blank c) out .none rest
      else if isBreak c then doubleQuoted place.nextLine (gap.lineBreak c) out .none rest
      else if atDocumentMark place (c :: rest) then none
      else if c == '"' then some (reversed (gap.folded ++ out), ⟨rest, place.next⟩)
      else if c == '\\' then doubleQuoted place.next (.blanks []) (gap.folded ++ out) .letter rest
      else doubleQuoted place.next (.blanks []) (c :: (gap.folded ++ out)) .none rest

inductive Chomping
  | strip
  | clip
  | keep
deriving DecidableEq, Repr

structure BlockStyle where
  folds : Bool
  chomping : Chomping := .clip
  increment : Option Nat := none
deriving DecidableEq, Repr

namespace BlockStyle

def withIncrement? (style : BlockStyle) (k : Cursor) : Option (BlockStyle × Cursor) :=
  match k.rest with
  | c :: _ =>
    if c == '0' then none
    else if c.isDigit then some ({ style with increment := some (c.toNat - 48) }, k.skip 1)
    else some (style, k)
  | [] => some (style, k)

def withChomping (style : BlockStyle) (k : Cursor) : BlockStyle × Cursor :=
  match k.rest with
  | '+' :: _ => ({ style with chomping := .keep }, k.skip 1)
  | '-' :: _ => ({ style with chomping := .strip }, k.skip 1)
  | _ => (style, k)

/-- The style that the signs after the first tell, in either order, and the cursor on the next line. -/
def read? (folds : Bool) (k : Cursor) : Option (BlockStyle × Cursor) := do
  let style : BlockStyle := { folds }
  let (style, k) := style.withChomping k
  let (style, k) ← style.withIncrement? k
  let (style, k) := if style.chomping = .clip then style.withChomping k else (style, k)
  let k ← k.endLine?
  return (style, k)

end BlockStyle

/-- The empty lines before the text of a block that does not tell its indentation: the widest of
them, their line breaks in reverse, and the cursor after the blanks of the first other line. -/
def blankLines (widest : Nat) (breaks : List Char) (place : Place) :
    List Char → Option (Nat × List Char × Cursor)
  | [] => some (max widest place.column, breaks, ⟨[], place⟩)
  | c :: rest =>
    let widest := max widest place.column
    if c == ' ' then blankLines widest breaks place.next rest
    else if c == '\t' then none
    else if isBreak c then blankLines widest (c :: breaks) place.nextLine rest
    else some (widest, breaks, ⟨c :: rest, place⟩)

/-- What has been read of a block, all in reverse: its text, the line break after the last line, and
the breaks of the empty lines after that. -/
structure BlockText where
  out : List Char := []
  last : List Char := []
  empty : List Char := []
  /-- The last line starts with a blank, so that the break after it is not folded. -/
  indented : Bool := false
  inLine : Bool := false
deriving DecidableEq, Repr

namespace BlockText

def join (b : BlockText) (folds : Bool) (c : Char) : List Char :=
  if folds && b.last == ['\n'] && !b.indented && !isBlank c then
    b.empty ++ ((if b.empty.isEmpty then [' '] else []) ++ b.out)
  else b.empty ++ (b.last ++ b.out)

def close (b : BlockText) (chomping : Chomping) : String :=
  match chomping with
  | .strip => reversed b.out
  | .clip => reversed (b.last ++ b.out)
  | .keep => reversed (b.empty ++ (b.last ++ b.out))

end BlockText

def blockLines (style : BlockStyle) (margin : Nat) (place : Place) (b : BlockText) :
    List Char → Option Scanned
  | [] => some (b.close style.chomping, ⟨[], place⟩)
  | c :: rest =>
    if b.inLine then
      if isBreak c then
        blockLines style margin place.nextLine { b with last := [c], inLine := false } rest
      else blockLines style margin place.next { b with out := c :: b.out } rest
    else if c == ' ' && place.column < margin then blockLines style margin place.next b rest
    else if c == '\t' && place.column < margin then none
    else if isBreak c then
      blockLines style margin place.nextLine { b with empty := c :: b.empty } rest
    else if place.column == margin then
      blockLines style margin place.next
        { out := c :: b.join style.folds c, indented := isBlank c, inLine := true } rest
    else some (b.close style.chomping, ⟨c :: rest, place⟩)

/-- The text of a block after its first sign. `parent` is the column of the block around it. -/
def block (folds : Bool) (parent : Option Nat) (k : Cursor) : Option Scanned := do
  let (style, k) ← BlockStyle.read? folds k
  match style.increment with
  | some n => blockLines style (parent.getD 0 + n) k.place {} k.rest
  | none => do
    let (widest, breaks, k) ← blankLines 0 [] k.place k.rest
    let margin := max widest (match parent with | some column => column + 1 | none => 1)
    blockLines style margin k.place { empty := breaks } k.rest

end FlowClient.Yaml
