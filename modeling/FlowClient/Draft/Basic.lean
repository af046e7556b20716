import FlowClient.Draft.Fault
import FlowClient.Json.Basic

/-!
A document as it was found, before it is known what its values should be. What is wrong in it counts
only where it is read: a value that nobody asks for may be passed over, and of several faults the one
that comes first in reading order decides.
-/

namespace FlowClient

inductive Scalar
  | null
  | flag (value : Bool)
  | int (value : Int)
  /-- A floating number, or none where it is infinite or not a number. -/
  | float (value : Option Binary64)
  | text (value : String)
  /-- A text that takes its type from the place where it is read. It is plain where no quotes enclose
  it, and may carry a tag. -/
  | loose (value : String) (plain : Bool) (tag : Option String)
deriving DecidableEq, Repr

mutual

inductive Draft
  | scalar (value : Scalar)
  /-- A list. `room` tells how many levels of nesting are open from here; a list without room may be
  passed over but not entered. `surplus` is the fault of items that are left over where the list stands
  for a record; a list without it cannot stand for one. -/
  | array (room : Nat) (surplus : Option Fault) (items : Items)
  /-- Keys and values in text order, repeated keys included. -/
  | object (room : Nat) (members : Members)
  /-- A value that cannot be read, with the fault that passing over it meets, if any. -/
  | flawed (read : Fault) (passed : Option Fault)
  | tagged (name : String) (value : Draft)
  /-- A value that stands elsewhere in the document. -/
  | deferred (value : Unit → Draft)

inductive Items
  | closed
  | cut (fault : Fault)
  | cons (head : Draft) (rest : Items)

inductive Members
  | closed
  | cut (fault : Fault)
  | cons (key value : Draft) (rest : Members)

end

instance : Inhabited Draft := ⟨.scalar .null⟩

/-- Reading keeps count of how many deferred values may still be looked up. -/
abbrev Reading := StateT Nat (Except Fault)

def Reading.fail {α : Type} (f : Fault) : Reading α := fun _ => .error f

def Reading.follow : Reading Unit := fun left =>
  match left with
  | 0 => .error .foreign
  | n + 1 => .ok ((), n)

def Reading.result {α : Type} (r : Reading α) (lookups : Nat) : Except Fault α :=
  (r.run lookups).map Prod.fst

namespace Scalar

def found : Scalar → Found
  | null => .null
  | flag b => .flag b
  | int i => .int i
  | float (some x) => .float x
  | float none => .null
  | text s => .text s
  | loose s _ _ => .text s

def isNullWord (s : String) : Bool :=
  s == "~" || s == "null" || s == "Null" || s == "NULL"

def flagWord? (s : String) : Option Bool :=
  if s == "true" || s == "True" || s == "TRUE" then some true
  else if s == "false" || s == "False" || s == "FALSE" then some false
  else none

def nullTag : String := "tag:yaml.org,2002:null"
def flagTag : String := "tag:yaml.org,2002:bool"
def intTag : String := "tag:yaml.org,2002:int"
def floatTag : String := "tag:yaml.org,2002:float"

end Scalar

end FlowClient
