import FlowClient.Proofs.Reading

/-! Lists and objects of drafts as lists of their parts, and what is read of them as readings of the
parts one after the other. -/

namespace FlowClient

open Reading (fail)

/-- A list that ends with a fault, if there is one. -/
def Reading.finish : Option Fault → Reading Unit
  | none => pure ()
  | some f => fail f

def Reading.enter (room : Nat) : Reading Unit :=
  if room = 0 then fail .malformed else pure ()

section Enter

variable {α : Type} (room : Nat)

theorem Reading.ne_zero_of_enter {done : Unit} (entered : enter room = pure done) : room ≠ 0 := by
  rintro rfl
  exact (gives_pure done).not_fails ⟨_,entered.symm⟩

theorem Draft.items_array (surplus : Option Fault) (items : Items) :
    (array room surplus items).items = Reading.enter room >>= fun _ => pure items := by
  cases room <;> rfl

theorem Draft.members_object (members : Members) :
    (object room members).members = Reading.enter room >>= fun _ => pure members := by
  cases room <;> rfl

theorem Draft.keep_array (surplus : Option Fault) (items : Items) :
    (array room surplus items).keep = Reading.enter room >>= fun _ => .arr <$> items.keep := by
  cases room <;> rfl

theorem Draft.keep_object (members : Members) :
    (object room members).keep = Reading.enter room >>= fun _ => .ofMembers <$> members.keep := by
  cases room <;> rfl

theorem Draft.settle_array (surplus : Fault) (items : Items) :
    (array room (some surplus) items).settle =
      Reading.enter room >>= fun _ => array room (some surplus) <$> items.settle := by
  cases room <;> rfl

theorem Draft.settle_object (members : Members) : (object room members).settle =
    Reading.enter room >>= fun _ => object room <$> members.settle := by
  cases room <;> rfl

end Enter

namespace Items

/-- The items of a list, cut off by the fault, if there is one. -/
def ofList (ending : Option Fault) : List Draft → Items
  | [] => ending.elim .closed .cut
  | d :: rest => .cons d (ofList ending rest)

variable {α : Type} (ending : Option Fault) (items : List Draft)

theorem readAll_ofList (read : Draft → Reading α) : (ofList ending items).readAll read = do
    let values ← items.mapM read
    Reading.finish ending
    return values := by
  induction items with
  | nil => cases ending <;> rfl
  | cons d rest ih =>
    rw [List.mapM_cons]
    simp only [ofList,readAll,ih,bind_assoc,pure_bind]

theorem keep_eq : (ofList ending items).keep = (ofList ending items).readAll Draft.keep := by
  induction items with
  | nil => cases ending <;> rfl
  | cons d rest ih => simp only [ofList,keep,readAll,ih]

theorem pass_ofList :
    (ofList ending items).pass = items.mapM Draft.pass >>= fun _ => Reading.finish ending := by
  induction items with
  | nil => cases ending <;> rfl
  | cons d rest ih =>
    rw [List.mapM_cons]
    simp only [ofList,pass,ih,bind_assoc,pure_bind]

theorem settle_ofList : (ofList ending items).settle = do
    let settled ← items.mapM Draft.settle
    Reading.finish ending
    return ofList ending settled := by
  induction items with
  | nil => cases ending <;> rfl
  | cons d rest ih =>
    rw [List.mapM_cons]
    simp only [ofList,settle,ih,bind_assoc,pure_bind]

end Items

namespace Members

/-- The members of an object, cut off by the fault, if there is one. -/
def ofList (ending : Option Fault) : List (Draft × Draft) → Members
  | [] => ending.elim .closed .cut
  | m :: rest => .cons m.1 m.2 (ofList ending rest)

def named (pair : String × Draft) : Draft × Draft := (.scalar (.text pair.1),pair.2)

def ofPairs (pairs : List (String × Draft)) : Members := ofList none (pairs.map named)

def pairs : Members → List (String × Draft)
  | .cons (.scalar (.text key)) d rest => (key,d) :: rest.pairs
  | .cons _ _ rest => rest.pairs
  | _ => []

theorem pairs_ofPairs (ps : List (String × Draft)) : (ofPairs ps).pairs = ps := by
  induction ps with
  | nil => rfl
  | cons p ps ih => exact congrArg (p :: ·) ih

variable {α : Type} (ending : Option Fault) (members : List (Draft × Draft))

theorem readAll_ofList (read : Draft → Reading α) : (ofList ending members).readAll read = do
    let entries ← members.mapM fun m => do
      let key ← m.1.text
      let a ← read m.2
      return (key,a)
    Reading.finish ending
    return entries := by
  induction members with
  | nil => cases ending <;> rfl
  | cons m rest ih =>
    rw [List.mapM_cons]
    simp only [ofList,readAll,ih,bind_assoc,pure_bind]

theorem keep_eq : (ofList ending members).keep = (ofList ending members).readAll Draft.keep := by
  induction members with
  | nil => cases ending <;> rfl
  | cons m rest ih => simp only [ofList,keep,readAll,ih]

theorem pass_ofList : (ofList ending members).pass =
    members.mapM (fun m => m.1.pass >>= fun _ => m.2.pass) >>= fun _ => Reading.finish ending := by
  induction members with
  | nil => cases ending <;> rfl
  | cons m rest ih =>
    rw [List.mapM_cons]
    simp only [ofList,pass,ih,bind_assoc,pure_bind]

theorem settle_ofList : (ofList ending members).settle = do
    let settled ← members.mapM fun m => do
      let key ← m.1.settle
      let d ← m.2.settle
      return (key,d)
    Reading.finish ending
    return ofList ending settled := by
  induction members with
  | nil => cases ending <;> rfl
  | cons m rest ih =>
    rw [List.mapM_cons]
    simp only [ofList,settle,ih,bind_assoc,pure_bind]

end Members

end FlowClient
