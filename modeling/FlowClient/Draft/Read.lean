import FlowClient.Draft.Word

/-!
Reading the parts of a draft: texts, truth values, values that may be absent, lists and objects, and
the two ways of taking a value as it is.
-/

namespace FlowClient

open Reading (fail follow)

def Draft.found : Draft → Found
  | .scalar s => s.found
  | .array _ _ _ => .sequence
  | .object _ _ => .mapping
  | .flawed _ _ => .null
  | .tagged _ d => d.found
  | .deferred d => (d ()).found

def Draft.refuse {α : Type} (d : Draft) (expected : String) : Reading α :=
  match d with
  | .flawed f _ => fail f
  | d => fail (.mismatch (.kind d.found expected))

mutual

/-- Passing over a value meets only the faults of its text. -/
def Draft.pass : Draft → Reading Unit
  | .scalar _ => pure ()
  | .array _ _ items => items.pass
  | .object _ members => members.pass
  | .flawed _ none => pure ()
  | .flawed _ (some f) => fail f
  | .tagged _ d => d.pass
  | .deferred _ => pure ()

def Items.pass : Items → Reading Unit
  | .closed => pure ()
  | .cut f => fail f
  | .cons d rest => do d.pass; rest.pass

def Members.pass : Members → Reading Unit
  | .closed => pure ()
  | .cut f => fail f
  | .cons k d rest => do k.pass; d.pass; rest.pass

end

/-- The value as a text. A value without type is taken as it is written. -/
def Draft.text : Draft → Reading String
  | .scalar (.text s) => pure s
  | .scalar (.loose s _ _) => pure s
  | .tagged _ d => d.text
  | .deferred d => do follow; (d ()).text
  | d => d.refuse "a string"

def Draft.flag : Draft → Reading Bool
  | .scalar (.flag b) => pure b
  | .scalar (.loose s true tag) =>
    match Scalar.flagWord? s with
    | some b => pure b
    | none => Draft.refuse (.scalar (.loose s true tag)) "a boolean"
  | .tagged _ d => d.flag
  | .deferred d => do follow; (d ()).flag
  | d => d.refuse "a boolean"

def Draft.optional {α : Type} (read : Draft → Reading α) : Draft → Reading (Option α)
  | .scalar .null => pure none
  | .scalar (.loose s true none) =>
    if s == "" || Scalar.isNullWord s then pure none
    else some <$> read (.scalar (.loose s true none))
  | .scalar (.loose s true (some tag)) =>
    if tag = Scalar.nullTag then (if Scalar.isNullWord s then pure none else fail .foreign)
    else some <$> read (.scalar (.loose s true (some tag)))
  | .deferred d => do follow; (d ()).optional read
  | d => some <$> read d

def Draft.isBlank : Draft → Bool
  | .scalar (.loose s plain _) => plain && s == ""
  | .tagged _ d => d.isBlank
  | _ => false

def Draft.items : Draft → Reading Items
  | .array 0 _ _ => fail .malformed
  | .array (_ + 1) _ items => pure items
  | .tagged _ d => d.items
  | .deferred d => do follow; (d ()).items
  | d => if d.isBlank then pure .closed else d.refuse "a sequence"

def Draft.members : Draft → Reading Members
  | .object 0 _ => fail .malformed
  | .object (_ + 1) members => pure members
  | .tagged _ d => d.members
  | .deferred d => do follow; (d ()).members
  | d => if d.isBlank then pure .closed else d.refuse "a map"

mutual

/-- The value with the type of every part made up, all of its faults met. -/
def Draft.settle : Draft → Reading Draft
  | .scalar s => do return .scalar (← s.typed)
  | .array 0 _ _ => fail .malformed
  | .array (room + 1) surplus items => do
    return .array (room + 1) (surplus <|> some .foreign) (← items.settle)
  | .object 0 _ => fail .malformed
  | .object (room + 1) members => do return .object (room + 1) (← members.settle)
  | .flawed f _ => fail f
  | .tagged _ _ => fail .foreign
  | .deferred d => do follow; (d ()).settle

def Items.settle : Items → Reading Items
  | .closed => pure .closed
  | .cut f => fail f
  | .cons d rest => do return .cons (← d.settle) (← rest.settle)

def Members.settle : Members → Reading Members
  | .closed => pure .closed
  | .cut f => fail f
  | .cons k d rest => do return .cons (← k.settle) (← d.settle) (← rest.settle)

end

def Scalar.keep : Scalar → Reading Json
  | .null => pure .null
  | .flag b => pure (.bool b)
  | .int i => pure (.int i)
  | .float (some x) => pure (.float x)
  | .float none => pure .null
  | .text s => pure (.str s)
  | .loose _ _ _ => fail .foreign

mutual

def Draft.keep : Draft → Reading Json
  | .scalar s => do (← s.typed).keep
  | .array 0 _ _ => fail .malformed
  | .array (_ + 1) _ items => do return .arr (← items.keep)
  | .object 0 _ => fail .malformed
  | .object (_ + 1) members => do return .ofMembers (← members.keep)
  | .flawed f _ => fail f
  | .tagged _ _ => fail .foreign
  | .deferred d => do follow; (d ()).keep

def Items.keep : Items → Reading (List Json)
  | .closed => pure []
  | .cut f => fail f
  | .cons d rest => do
    let j ← d.keep
    return j :: (← rest.keep)

def Members.keep : Members → Reading (List (String × Json))
  | .closed => pure []
  | .cut f => fail f
  | .cons k d rest => do
    let key ← k.text
    let j ← d.keep
    return (key, j) :: (← rest.keep)

end

end FlowClient
