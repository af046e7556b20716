import FlowClient.Draft.Basic

/-!
JSON values as drafts.
-/

namespace FlowClient.Json

mutual

/-- The value as a draft, where `room` is at least its depth. -/
def draftWithin (room : Nat) : Json → Draft
  | null => .scalar .null
  | bool b => .scalar (.flag b)
  | int i => .scalar (.int i)
  | float x => .scalar (.float (some x))
  | str s => .scalar (.text s)
  | arr items =>
    .array room (some (.mismatch (.length items.length "fewer elements in array")))
      (itemsWithin (room - 1) items)
  | obj members => .object room (membersWithin (room - 1) members)

def itemsWithin (room : Nat) : List Json → Items
  | [] => .closed
  | j :: rest => .cons (j.draftWithin room) (itemsWithin room rest)

def membersWithin (room : Nat) : List (String × Json) → Members
  | [] => .closed
  | (k, j) :: rest => .cons (.scalar (.text k)) (j.draftWithin room) (membersWithin room rest)

end

/-- The value as a draft. A list that stands for a record must not be longer than the record. -/
def toDraft (j : Json) : Draft := j.draftWithin j.depth

end FlowClient.Json
