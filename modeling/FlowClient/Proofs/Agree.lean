import FlowClient.Proofs.Twin

/-! Readers that cannot tell twins apart: those of texts, truth values, lists and tables. -/

namespace FlowClient

open Reading (Alike Fails)

variable {α β : Type} {n n' : Nat}

/-- The readers are alike on twins with less than this room. -/
def Agree (n n' : Nat) (read : Draft → Reading α) (read' : Draft → Reading β) : Prop :=
  ∀ ⦃r r' : Nat⦄ ⦃x y : Draft⦄, r < n → r' < n' → Twin r r' x y → (read x).Alike (read' y)

theorem refuse_fails (d : Draft) (expected : String) : (d.refuse expected : Reading α).Fails := by
  cases d <;> exact ⟨_,rfl⟩

theorem refuse_alike (x y : Draft) (expected expected' : String) :
    (x.refuse expected : Reading α).Alike (y.refuse expected' : Reading β) :=
  .inr ⟨refuse_fails x expected,refuse_fails y expected'⟩

section Values

theorem agree_text : Agree n n' Draft.text Draft.text := by
  intro r r' x y _ _ twin
  cases twin with
  | leaf simple =>
    cases simple with
    | text s => exact .pure s s
    | _ => exact refuse_alike _ _ _ _
  | _ => exact refuse_alike _ _ _ _

theorem agree_flag : Agree n n' Draft.flag Draft.flag := by
  intro r r' x y _ _ twin
  cases twin with
  | leaf simple =>
    cases simple with
    | flag b => exact .pure b b
    | _ => exact refuse_alike _ _ _ _
  | _ => exact refuse_alike _ _ _ _

theorem agree_keep : Agree n n' Draft.keep Draft.keep :=
  fun _ _ _ _ _ _ twin => twin.keep

end Values

section Parts

variable {read : Draft → Reading α} {read' : Draft → Reading β} (agree : Agree n n' read read')

include agree

theorem Agree.mono {m m' : Nat} (le : m ≤ n) (le' : m' ≤ n') : Agree m m' read read' :=
  fun _ _ _ _ below below' twin =>
    agree (Nat.lt_of_lt_of_le below le) (Nat.lt_of_lt_of_le below' le') twin

theorem Agree.optional : Agree n n' (·.optional read) (·.optional read') := by
  intro r r' x y below below' twin
  have whole := (agree below below' twin).map some some
  cases twin with
  | leaf simple =>
    cases simple with
    | null => exact .pure none none
    | _ => exact whole
  | _ => exact whole

theorem Agree.list : Agree n n' (Draft.list read) (Draft.list read') := by
  intro r r' x y below below' twin
  cases twin with
  | leaf simple => cases simple <;> exact .fails rfl rfl
  | @array _ _ _ _ ending _ _ rooms size each =>
    rw [Draft.list,Draft.list,Draft.items_array,Draft.items_array,bind_assoc,bind_assoc]
    apply enter_bind rooms
    intro _ _
    rw [pure_bind,pure_bind]
    apply Items.readAll_alike ending size
    intro pair member
    exact agree (by omega) (by omega) (each pair member)
  | _ => exact .fails rfl rfl

theorem Agree.table : Agree n n' (Draft.table read) (Draft.table read') := by
  intro r r' x y below below' twin
  cases twin with
  | leaf simple => cases simple <;> exact .fails rfl rfl
  | array => exact .fails rfl rfl
  | @object _ _ ending _ _ rooms keys known each =>
    rw [Draft.table,Draft.table,Draft.members_object,Draft.members_object,bind_assoc,bind_assoc]
    apply enter_bind rooms
    intro _ _
    rw [pure_bind,pure_bind]
    apply (Members.readAll_ordered ending keys known ?_).bind
    · intro entries entries' _ _
      exact .pure _ _
    · intro pair member
      exact agree (by omega) (by omega) (each pair member)
  | shuffled rooms keys _ each =>
    rw [Draft.table,Draft.table,Draft.members_object,Draft.members_object,bind_assoc,bind_assoc]
    apply enter_bind rooms
    intro _ _
    rw [pure_bind,pure_bind]
    apply (Members.readAll_shuffled keys ?_).bind
    · intro entries entries' _ _
      exact .pure _ _
    · intro key x y here there
      exact agree (by omega) (by omega) (each key x y here there)

theorem Agree.settled :
    Agree n n' (fun d => d.settle >>= read) (fun d => d.settle >>= read') := by
  intro r r' x y below below' twin
  apply twin.settle.bind
  intro x' y' settled settled'
  obtain rfl := twin.settled.1.eq settled
  obtain rfl := twin.settled.2.eq settled'
  exact agree below below' twin

end Parts

end FlowClient
