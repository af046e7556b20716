import FlowClient.Yaml.Token

/-!
The nodes of a YAML document. Anchors are known by numbers, and an alias refers to the node that bears
its number.
-/

namespace FlowClient.Yaml

structure Marks where
  anchor : Option Nat := none
  tag : Option String := none
deriving DecidableEq, Repr

inductive Node
  | alias (anchor : Nat)
  | scalar (marks : Marks) (text : String) (plain : Bool)
  | list (marks : Marks) (items : List Node)
  | map (marks : Marks) (members : List (Node × Node))
deriving Repr

def Node.blank : Node := .scalar {} "" true

instance : Inhabited Node := ⟨.blank⟩

def Node.anchor? : Node → Option Nat
  | .alias _ => none
  | .scalar marks _ _ => marks.anchor
  | .list marks _ => marks.anchor
  | .map marks _ => marks.anchor

mutual

def Node.parts : Node → List Node
  | .alias a => [.alias a]
  | .scalar marks text plain => [.scalar marks text plain]
  | .list marks items => .list marks items :: partsOfItems items
  | .map marks members => .map marks members :: partsOfMembers members

def Node.partsOfItems : List Node → List Node
  | [] => []
  | n :: rest => n.parts ++ partsOfItems rest

def Node.partsOfMembers : List (Node × Node) → List Node
  | [] => []
  | (k, n) :: rest => k.parts ++ (n.parts ++ partsOfMembers rest)

end

/-- The marks of a node itself: one for a text or an alias, two around other nodes. -/
def Node.ownMarks : Node → Nat
  | .list _ _ => 2
  | .map _ _ => 2
  | _ => 1

def Node.size (n : Node) : Nat := n.parts.foldr (fun part count => part.ownMarks + count) 0

/-- The node that an alias in the document refers to. Of several nodes with its number, that is the
last one in text order. -/
def Node.target? (root : Node) (anchor : Nat) : Option Node :=
  root.parts.reverse.find? (·.anchor? == some anchor)

end FlowClient.Yaml
