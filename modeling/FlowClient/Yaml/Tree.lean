import FlowClient.Yaml.Node
import FlowClient.Yaml.Tokens

/-!
The document of a YAML text: its tokens must form one node, with marks around it or not. Reading a
node takes tokens from the front of what is left.
-/

namespace FlowClient.Yaml

/-- What is left to be read, the short forms of tags, and the anchors so far. -/
structure Source where
  tokens : List Token
  handles : List (String × String) := []
  anchors : List (String × Nat) := []

abbrev Parse := StateT Source Option

namespace Parse

def fail {α : Type} : Parse α := fun _ => none

def peek : Parse (Option Token) := return (← get).tokens.head?

def drop : Parse Unit := modify fun s => { s with tokens := s.tokens.tail }

def take? (t : Token) : Parse Bool := do
  if (← peek) = some t then
    drop
    return true
  else return false

def isNext (ts : List Token) : Parse Bool := return (← peek).any ts.contains

/-- An anchor gets its number, which is the number of names so far. A name that is used again does
not count as a new one. -/
def define (name : String) : Parse Nat := do
  let s ← get
  let number := s.anchors.length
  set { s with anchors := (name, number) :: s.anchors.filter (·.1 != name) }
  return number

def resolve (name : String) : Parse Nat := do
  match (← get).anchors.lookup name with
  | some number => return number
  | none => fail

def fullTag (handle rest : String) : Parse String := do
  if handle == "" then return rest
  else match (← get).handles.lookup handle with
    | some start => return start ++ rest
    | none => fail

def anchor? : Parse (Option Nat) := do
  match ← peek with
  | some (.anchor name) => do
    drop
    return some (← define name)
  | _ => return none

def tag? : Parse (Option String) := do
  match ← peek with
  | some (.tag handle rest) => do
    drop
    return some (← fullTag handle rest)
  | _ => return none

def marks : Parse Marks := do
  let anchor ← anchor?
  let tag ← tag?
  let anchor ← if anchor.isNone then anchor? else pure anchor
  return { anchor, tag }

/-- A node, unless one of the tokens shows that nothing is written. -/
def orBlank (ends : List Token) (node : Parse Node) : Parse Node := do
  if ← isNext ends then return .blank else node

def valueOrBlank (ends : List Token) (node : Parse Node) : Parse Node := do
  if ← take? .value then orBlank ends node else return .blank

/-- A text with its marks. The tag of one exclamation mark says nothing about a text. -/
def text (marks : Marks) (text : String) (plain : Bool) : Node :=
  .scalar { marks with tag := marks.tag.filter (· != "!") } text plain

mutual

/-- A node. Inside brackets there are no blocks. Only the key or the value of a block may be a list
that is not indented. -/
def node (fuel : Nat) (inBlock unindented : Bool) : Parse Node :=
  match fuel with
  | 0 => fail
  | fuel + 1 => do
    if let some (.alias name) := ← peek then
      drop
      return .alias (← resolve name)
    let marks ← marks
    match ← peek with
    | some (.scalar s plain) => do
      drop
      return text marks s plain
    | some .listStart => do
      drop
      return .list marks (← flowItems fuel true)
    | some .mapStart => do
      drop
      return .map marks (← flowMembers fuel true)
    | next =>
      if next == some .item && unindented then return .list marks (← unindentedItems fuel)
      else if next == some .blockList && inBlock then do
        drop
        return .list marks (← blockItems fuel)
      else if next == some .blockMap && inBlock then do
        drop
        return .map marks (← blockMembers fuel)
      else if marks.anchor.isSome || marks.tag.isSome then return .scalar marks "" true
      else fail

def blockItems (fuel : Nat) : Parse (List Node) :=
  match fuel with
  | 0 => fail
  | fuel + 1 => do
    if ← take? .blockEnd then return []
    else if ← take? .item then do
      let n ← orBlank [.item, .blockEnd] (node fuel true false)
      return n :: (← blockItems fuel)
    else fail

def unindentedItems (fuel : Nat) : Parse (List Node) :=
  match fuel with
  | 0 => fail
  | fuel + 1 => do
    if ← take? .item then do
      let n ← orBlank [.item, .key, .value, .blockEnd] (node fuel true false)
      return n :: (← unindentedItems fuel)
    else return []

def blockMembers (fuel : Nat) : Parse (List (Node × Node)) :=
  match fuel with
  | 0 => fail
  | fuel + 1 => do
    if ← take? .blockEnd then return []
    else if ← take? .key then do
      let k ← orBlank [.key, .value, .blockEnd] (node fuel true true)
      let n ← valueOrBlank [.key, .value, .blockEnd] (node fuel true true)
      return (k, n) :: (← blockMembers fuel)
    else fail

/-- The items of a list in brackets; a question mark makes a map of one member. Where its key is
missing, the sign that stands there instead is passed over. -/
def flowItems (fuel : Nat) (first : Bool) : Parse (List Node) :=
  match fuel with
  | 0 => fail
  | fuel + 1 => do
    if ← take? .listEnd then return []
    else if !first && !(← take? .comma) then fail
    else if ← take? .listEnd then return []
    else if ← take? .key then do
      let k ← if ← isNext [.value, .comma, .listEnd] then do
          drop
          pure .blank
        else node fuel false false
      let n ← valueOrBlank [.comma, .listEnd] (node fuel false false)
      return .map {} [(k, n)] :: (← flowItems fuel false)
    else do
      let n ← node fuel false false
      return n :: (← flowItems fuel false)

def flowMembers (fuel : Nat) (first : Bool) : Parse (List (Node × Node)) :=
  match fuel with
  | 0 => fail
  | fuel + 1 => do
    if ← take? .mapEnd then return []
    else if !first && !(← take? .comma) then fail
    else if ← take? .mapEnd then return []
    else if ← take? .key then do
      let k ← orBlank [.value, .comma, .mapEnd] (node fuel false false)
      let n ← valueOrBlank [.comma, .mapEnd] (node fuel false false)
      return (k, n) :: (← flowMembers fuel false)
    else do
      let k ← node fuel false false
      return (k, .blank) :: (← flowMembers fuel false)

end

def isDirective : Token → Bool
  | .version _ _ => true
  | .handle _ _ => true
  | _ => false

def isKnownVersion : Token → Bool
  | .version major minor => major == 1 && (minor == 1 || minor == 2)
  | _ => true

def isVersion : Token → Bool
  | .version _ _ => true
  | _ => false

def handle? : Token → Option (String × String)
  | .handle name start => some (name, start)
  | _ => none

def standardHandles : List (String × String) := [("!", "!"), ("!!", "tag:yaml.org,2002:")]

/-- The directives before the document: at most one version, and no short form twice. Tells whether
there are any. -/
def directives : Parse Bool := do
  let s ← get
  let ds := s.tokens.takeWhile isDirective
  let handles := ds.filterMap handle?
  if !ds.all isKnownVersion || 1 < ds.countP isVersion || !(handles.map Prod.fst).Nodup then fail
  else
    set { s with tokens := s.tokens.drop ds.length, handles := handles ++ standardHandles }
    return !ds.isEmpty

def document : Parse Node := do
  let announced ← directives
  let fuel := 3 * (← get).tokens.length + 3
  let started ← take? .documentStart
  if announced && !started then fail
  else
    let bare ← isNext [.documentStart, .documentEnd]
    let root ← if (← peek).isNone || (started && bare) then pure .blank else node fuel true false
    modify fun s => { s with tokens := s.tokens.dropWhile (· == .documentEnd) }
    if (← peek).isSome then fail else return root

end Parse

def document? (text : String) : Option Node := do
  let tokens ← tokens? text
  return (← Parse.document.run { tokens := tokens.toList }).1

end FlowClient.Yaml
