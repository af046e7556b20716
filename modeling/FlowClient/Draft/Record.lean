import FlowClient.Draft.Read
import FlowClient.Table

/-!
Records read from drafts. A record is given as an object of its fields in any order, where other keys
are passed over, or as a list of its fields in their own order.
-/

namespace FlowClient

open Reading (fail follow)

inductive Presence
  | required
  /-- An object may leave it out, a list may not. -/
  | optional
  /-- It may be left out at the end of a list too. -/
  | defaulted
deriving DecidableEq, Repr

structure Field (σ : Type) where
  name : String
  presence : Presence
  read : Draft → Reading (σ → σ)

structure Record (σ : Type) where
  name : String
  blank : σ
  fields : List (Field σ)

namespace Field

variable {σ α : Type}

def of (name : String) (presence : Presence) (read : Draft → Reading α) (set : α → σ → σ) :
    Field σ :=
  ⟨name, presence, fun d => do return set (← read d)⟩

def maybe (name : String) (read : Draft → Reading α) (set : Option α → σ → σ) : Field σ :=
  .of name .optional (·.optional read) set

end Field

section

variable {σ α : Type}

def Items.readAll (read : Draft → Reading α) : Items → Reading (List α)
  | .closed => pure []
  | .cut f => fail f
  | .cons d rest => do
    let a ← read d
    return a :: (← rest.readAll read)

def Members.readAll (read : Draft → Reading α) : Members → Reading (List (String × α))
  | .closed => pure []
  | .cut f => fail f
  | .cons k d rest => do
    let key ← k.text
    let a ← read d
    return (key, a) :: (← rest.readAll read)

def Draft.list (read : Draft → Reading α) (d : Draft) : Reading (List α) := do
  (← d.items).readAll read

def Draft.table (read : Draft → Reading α) (d : Draft) : Reading (Table α) := do
  return Table.ofEntries (← (← d.members).readAll read)

/-- The field a key names: by its name, or by its place where the key is a number. -/
def Draft.fieldOf? (fields : List (Field σ)) : Draft → Reading (Option (Field σ))
  | .scalar (.text s) => pure (fields.find? (·.name == s))
  | .scalar (.loose s _ _) => pure (fields.find? (·.name == s))
  | .scalar (.int i) =>
    if 0 ≤ i then pure fields[i.toNat]?
    else Draft.refuse (.scalar (.int i)) "field identifier"
  | .tagged _ d => d.fieldOf? fields
  | .deferred d => do follow; (d ()).fieldOf? fields
  | d => d.refuse "field identifier"

def missing? (fields : List (Field σ)) (seen : List String) : Option (Field σ) :=
  fields.find? fun f => f.presence = .required && !seen.contains f.name

/-- The record after the members, where `seen` holds the fields given so far. -/
def Members.fill (fields : List (Field σ)) (seen : List String) (s : σ) : Members → Reading σ
  | .closed =>
    match missing? fields seen with
    | some f => fail (.mismatch (.missingField f.name))
    | none => pure s
  | .cut f => fail f
  | .cons k d rest => do
    match ← k.fieldOf? fields with
    | none =>
      d.pass
      rest.fill fields seen s
    | some f =>
      if seen.contains f.name then fail (.mismatch (.duplicateField f.name))
      else
        let set ← f.read d
        rest.fill fields (f.name :: seen) (set s)

def Record.expectedList (r : Record σ) : String :=
  "struct " ++ r.name ++ " with " ++ Json.intText r.fields.length ++ " elements"

/-- The end of a list that stands for a record: the fields that remain must be defaulted. -/
def endOfList (expected : String) (s : σ) (place : Nat) : List (Field σ) → Reading σ
  | [] => pure s
  | f :: rest =>
    if f.presence = .defaulted then endOfList expected s (place + 1) rest
    else fail (.mismatch (.length place expected))

/-- The record after the items, which give the remaining fields from the one at `place` on. -/
def Items.fill (expected : String) (surplus : Fault) (place : Nat) (s : σ) :
    List (Field σ) → Items → Reading σ
  | fields, .closed => endOfList expected s place fields
  | _, .cut f => fail f
  | [], .cons _ _ => fail surplus
  | f :: fields, .cons d rest => do
    let set ← f.read d
    rest.fill expected surplus (place + 1) (set s) fields

def Record.read (r : Record σ) : Draft → Reading σ
  | .array room none items => Draft.refuse (.array room none items) ("struct " ++ r.name)
  | .array 0 (some _) _ => fail .malformed
  | .array (_ + 1) (some surplus) items => items.fill r.expectedList surplus 0 r.blank r.fields
  | .object 0 _ => fail .malformed
  | .object (_ + 1) members => members.fill r.fields [] r.blank
  | .tagged _ d => r.read d
  | .deferred d => do follow; r.read (d ())
  | d => if d.isBlank then Members.fill r.fields [] r.blank .closed else d.refuse ("struct " ++ r.name)

def Record.readObject (r : Record σ) : Draft → Reading σ
  | .object room members => r.read (.object room members)
  | d => d.refuse ("struct " ++ r.name)

/-- One of the named values, given by its name, by an object that holds null under the name or the
place of the value, or by a tag on null. The type of a key without type is not made up for that. An
empty object may count as null. -/
def Draft.variant (emptyIsNull : Bool) (values : List (String × α)) : Draft → Reading α
  | .scalar (.text s) => choose s
  | .scalar (.loose s _ _) => choose s
  | .tagged name d => do
    let a ← choose name
    unit d
    return a
  | .deferred d => do follow; (d ()).variant emptyIsNull values
  | .object 0 _ => fail .malformed
  | .object (_ + 1) (.cons k d rest) => do
    let a ← key k
    unit d
    match rest with
    | .closed => pure a
    | .cut f => fail f
    | .cons _ _ _ => fail .malformed
  | .object (_ + 1) (.cut f) => fail f
  | .flawed f _ => fail f
  | _ => fail .malformed
where
  choose (s : String) : Reading α :=
    match values.lookup s with
    | some a => pure a
    | none => fail (.mismatch (.unknownVariant s (values.map Prod.fst)))
  key : Draft → Reading α
    | .scalar (.text s) => choose s
    | .scalar (.int i) =>
      match values[i.toNat]? with
      | some (_, a) => if 0 ≤ i then pure a else fail .malformed
      | none => fail .malformed
    | .flawed f _ => fail f
    | _ => fail .malformed
  unit : Draft → Reading Unit
    | .scalar .null => pure ()
    | .scalar (.loose s true _) =>
      if s == "" || Scalar.isNullWord s then pure () else fail .foreign
    | .object (room + 1) .closed =>
      if emptyIsNull then pure () else Draft.refuse (.object (room + 1) .closed) "unit"
    | d => d.refuse "unit"

end

end FlowClient
