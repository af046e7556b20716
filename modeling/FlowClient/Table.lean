/-!
Tables in the order in which their keys first came. A key that comes again keeps its place and takes
the later value.
-/

namespace FlowClient

/-- Values by name, in the order of the names' first appearance. -/
abbrev Table (α : Type) := List (String × α)

namespace Table

variable {α : Type}

def get? (t : Table α) (name : String) : Option α :=
  List.lookup name t

def names (t : Table α) : List String :=
  t.map Prod.fst

/-- The value put under a name: in the place the name has, or at the end. -/
def insert (t : Table α) (name : String) (value : α) : Table α :=
  match t with
  | [] => [(name, value)]
  | (n, v) :: rest => if n = name then (n, value) :: rest else (n, v) :: Table.insert rest name value

def ofEntries (entries : List (String × α)) : Table α :=
  entries.foldl (fun t e => t.insert e.1 e.2) []

end Table

end FlowClient
