import FlowClient.Yaml.Tree
import FlowClient.Draft.Read

/-!
YAML documents as drafts. Texts stay without type until they are read, local tags become types of their
own, and aliases are looked up where they are read.
-/

namespace FlowClient.Yaml

def maxDepth : Nat := 128

/-- How many aliases may be looked up for each mark of a document. -/
def lookupsPerMark : Nat := 100

def localTag? (tag : String) : Option String :=
  match tag.toList with
  | ['!'] => some "!"
  | '!' :: name => some (String.ofList name)
  | _ => none

/-- A draft under the tag of its node. A tag that is not local says nothing about a container. -/
def tagged (marks : Marks) (d : Draft) : Draft :=
  match marks.tag.bind localTag? with
  | some name => .tagged name d
  | none => d

def items (draft : Node → Draft) : List Node → Items
  | [] => .closed
  | n :: rest => .cons (draft n) (items draft rest)

def members (draft : Node → Draft) : List (Node × Node) → Members
  | [] => .closed
  | (k, n) :: rest => .cons (draft k) (draft n) (members draft rest)

def Node.draftWith (draft : Node → Draft) (room : Nat) : Node → Draft
  | .alias _ => .scalar .null
  | .scalar marks text plain =>
    match marks.tag.bind localTag? with
    | some name => .tagged name (.scalar (.loose text plain none))
    | none => .scalar (.loose text plain marks.tag)
  | .list marks ns => tagged marks (.array room none (items draft ns))
  | .map marks ns => tagged marks (.object room (members draft ns))

/-- The draft of a node in the document, where `room` levels of nesting are open. -/
def Node.draftIn (root : Node) (room : Nat) (n : Node) : Draft :=
  let parts := match room with
    | 0 => fun _ => default
    | room + 1 => Node.draftIn root room
  match n with
  | .alias a => .deferred fun _ => ((root.target? a).getD .blank).draftWith parts room
  | n => n.draftWith parts room

def read {α : Type} (reading : Draft → Reading α) (text : String) : Except Fault α :=
  match document? text with
  | none => .error .malformed
  | some root => (reading (Node.draftIn root maxDepth root)).result (lookupsPerMark * root.size)

end FlowClient.Yaml
