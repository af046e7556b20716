import FlowClient.Number.Binary64

/-!
JSON values as they are kept: integers of 64 bits or floating numbers, and objects whose keys are
sorted and differ. The last of several members with one key counts.
-/

namespace FlowClient

inductive Json
  | null
  | bool (value : Bool)
  | int (value : Int)
  | float (value : Binary64)
  | str (value : String)
  | arr (items : List Json)
  | obj (members : List (String × Json))
deriving Inhabited, Repr

namespace Json

/-- The member put at its place in ascending order of keys, over an older one with its key. -/
def insertMember (key : String) (value : Json) : List (String × Json) → List (String × Json)
  | [] => [(key, value)]
  | (k, v) :: rest =>
    if key < k then (key, value) :: (k, v) :: rest
    else if key = k then (key, value) :: rest
    else (k, v) :: insertMember key value rest

/-- The object with these members, later ones over earlier ones. -/
def ofMembers (members : List (String × Json)) : Json :=
  .obj (members.foldl (fun sorted m => insertMember m.1 m.2 sorted) [])

def str? : Json → Option String
  | str s => some s
  | _ => none

def get? (j : Json) (key : String) : Option Json :=
  match j with
  | obj members => members.lookup key
  | _ => none

def depth : Json → Nat
  | arr items => itemsDepth items + 1
  | obj members => membersDepth members + 1
  | _ => 0
where
  itemsDepth : List Json → Nat
    | [] => 0
    | j :: rest => max j.depth (itemsDepth rest)
  membersDepth : List (String × Json) → Nat
    | [] => 0
    | (_, j) :: rest => max j.depth (membersDepth rest)

end Json

end FlowClient
