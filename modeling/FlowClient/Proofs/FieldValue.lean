import FlowClient.Proofs.AgreeRecord
import FlowClient.Proofs.Scan
import FlowClient.Proofs.Table

/-! The value of a draft that a field of a record is read from: the one under its name, or the one at its
place where a list stands for the record. -/

namespace FlowClient

open Reading (Sure Gives)

variable {α σ : Type}

def Items.list : Items → List Draft
  | .cons d rest => d :: rest.list
  | _ => []

theorem Items.list_ofList (ending : Option Fault) (xs : List Draft) : (ofList ending xs).list = xs := by
  induction xs with
  | nil => cases ending <;> rfl
  | cons x xs ih => exact congrArg (x :: ·) ih

theorem Members.mem_of_pairs {ending : Option Fault} {ms : List (Draft × Draft)} {key : String}
    {x : Draft} (member : (key,x) ∈ (ofList ending ms).pairs) : named (key,x) ∈ ms := by
  induction ms with
  | nil => cases ending <;> simp [ofList,pairs] at member
  | cons m ms ih =>
    obtain ⟨k,y⟩ := m
    rw [ofList,pairs.eq_def] at member
    split at member
    · rename_i same
      obtain ⟨rfl,rfl,rfl⟩ := Members.cons.inj same
      rcases List.mem_cons.mp member with same | member
      · obtain ⟨rfl,rfl⟩ := Prod.mk.inj same
        exact List.mem_cons_self
      · exact List.mem_cons_of_mem _ (ih member)
    · rename_i same
      obtain ⟨rfl,rfl,rfl⟩ := Members.cons.inj same
      exact List.mem_cons_of_mem _ (ih member)
    · simp at member

/-- The value that a field of a record is read from. -/
def Record.value? (record : Record σ) (name : String) : Draft → Option Draft
  | .array _ _ items => ((record.fields.map (·.name)).zip items.list).lookup name
  | .object _ members => members.pairs.lookup name
  | _ => none

/-- What the record has in a field is read from the value, or left as it is where there is none. -/
def Filled (read : Draft → Reading α) (get : σ → α) (value : Option Draft) (s s' : σ) : Prop :=
  match value with
  | none => get s' = get s
  | some x => read x = pure (get s')

/-- The field of the name takes what the reader gives for its value, and any other field leaves that as
it is. -/
structure Field.Serves (name : String) (read : Draft → Reading α) (get : σ → α) (room : Nat)
    (f : Field σ) : Prop where
  sure : ∀ x, Scanned room x → (f.read x).Sure
  reads : f.name = name → ∀ x change s, Scanned room x → f.read x = pure change →
    read x = pure (get (change s))
  frame : f.name ≠ name → ∀ x change s, Scanned room x → f.read x = pure change →
    get (change s) = get s

theorem endOfList_gives {expected : String} {place : Nat} {s s' : σ} {rest : List (Field σ)}
    (gives : endOfList expected s place rest = pure s') : s' = s := by
  induction rest generalizing place with
  | nil => exact (Reading.pure_inj gives).symm
  | cons f rest ih =>
    rw [endOfList] at gives
    split at gives
    · exact ih gives
    · exact absurd ⟨_,rfl⟩ (Gives.not_fails ⟨s',gives⟩)

section Fill

variable {name : String} {read : Draft → Reading α} {get : σ → α} {room : Nat}

theorem Agree.sure {f : Draft → Reading α} (agree : Agree (room + 1) (room + 1) f f) (x : Draft)
    (scanned : Scanned room x) : (f x).Sure :=
  (agree (Nat.lt_succ_self room) (Nat.lt_succ_self room) scanned.twin).left

theorem Field.Serves.same (presence : Presence) (agree : Agree (room + 1) (room + 1) read read)
    (set : α → σ → σ) (made : ∀ a s, get (set a s) = a) :
    (Field.of name presence read set).Serves name read get room where
  sure := (matches_of name presence agree set set).agree.sure
  reads := by
    intro _ x change s scanned gives
    obtain ⟨a,given,same⟩ := (agree.sure x scanned).bind_gives gives
    obtain rfl := Reading.pure_inj same
    rw [given,made]
  frame apart := absurd rfl apart

theorem Field.Serves.other {β : Type} {other : String} (apart : other ≠ name) (presence : Presence)
    {read' : Draft → Reading β} (agree : Agree (room + 1) (room + 1) read' read')
    (set : β → σ → σ) (kept : ∀ b s, get (set b s) = get s) :
    (Field.of other presence read' set).Serves name read get room where
  sure := (matches_of other presence agree set set).agree.sure
  reads same := absurd same apart
  frame := by
    intro _ x change s scanned gives
    obtain ⟨b,_,same⟩ := (agree.sure x scanned).bind_gives gives
    obtain rfl := Reading.pure_inj same
    exact kept b s

variable {fields : List (Field σ)} (serves : ∀ f ∈ fields, f.Serves name read get room)

include serves

/-- An object gives what stands under the name, unless the field was seen before. -/
theorem Members.fill_value (listed : ∃ f ∈ fields, f.name = name) {ending : Option Fault}
    {ms : List (Draft × Draft)} (known : ∀ m ∈ ms, m.1.Key) (each : ∀ m ∈ ms, Scanned room m.2)
    (seen : List String) (s s' : σ) (gives : (ofList ending ms).fill fields seen s = pure s') :
    (name ∈ seen → get s' = get s) ∧
      (name ∉ seen → Filled read get ((ofList ending ms).pairs.lookup name) s s') := by
  induction ms generalizing seen s with
  | nil =>
    cases ending with
    | some f => exact absurd ⟨f,rfl⟩ (Gives.not_fails ⟨s',gives⟩)
    | none =>
      rw [ofList,Option.elim,fill] at gives
      split at gives
      · exact absurd ⟨_,rfl⟩ (Gives.not_fails ⟨s',gives⟩)
      · obtain rfl := Reading.pure_inj gives
        exact ⟨fun _ => rfl,fun _ => rfl⟩
  | cons m ms ih =>
    obtain ⟨k,x⟩ := m
    have later := ih (fun m member => known m (by simp [member]))
      fun m member => each m (by simp [member])
    have here : Scanned room x := each (k,x) (by simp)
    cases known (k,x) (by simp) with
    | flawed f passed => exact absurd ⟨f,rfl⟩ (Gives.not_fails ⟨s',gives⟩)
    | text key =>
      simp only [ofList,fill,Draft.fieldOf?,pure_bind,pairs,List.lookup_cons] at gives ⊢
      cases found : fields.find? (·.name == key) with
      | none =>
        rw [found] at gives
        obtain ⟨_,_,gives⟩ := here.twin.pass.left.bind_gives gives
        have apart : name ≠ key := by
          rintro rfl
          obtain ⟨f,member,same⟩ := listed
          exact List.find?_eq_none.mp found f member (by simp [same])
        rw [beq_eq_false_iff_ne.mpr apart]
        exact later seen s gives
      | some f =>
        rw [found] at gives
        have member := List.mem_of_find?_eq_some found
        have named : f.name = key := by simpa using List.find?_some found
        dsimp only at gives
        split at gives
        · exact absurd ⟨_,rfl⟩ (Gives.not_fails ⟨s',gives⟩)
        · rename_i unseen
          rw [named,List.contains_iff_mem] at unseen
          obtain ⟨change,given,gives⟩ := ((serves f member).sure x here).bind_gives gives
          have rest := later _ _ gives
          rw [named] at rest
          by_cases same : name = key
          · subst same
            have after := rest.1 List.mem_cons_self
            refine ⟨fun member => absurd member unseen,fun _ => ?_⟩
            rw [beq_self_eq_true,Filled,after]
            exact (serves f member).reads named x change s here given
          · have framed := (serves f member).frame (fun eq => same (eq.symm.trans named)) x change s
              here given
            rw [beq_eq_false_iff_ne.mpr same]
            simp only [List.mem_cons,same,false_or,Filled,framed] at rest ⊢
            exact rest

/-- A list gives what stands at the place of the name. -/
theorem Items.fill_value (distinct : (fields.map (·.name)).Nodup) {ending : Option Fault}
    {xs : List Draft} (each : ∀ x ∈ xs, Scanned room x) (expected : String) (surplus : Fault)
    (place : Nat) (s s' : σ)
    (gives : (ofList ending xs).fill expected surplus place s fields = pure s') :
    Filled read get (((fields.map (·.name)).zip xs).lookup name) s s' := by
  induction fields generalizing xs place s with
  | nil =>
    cases xs with
    | cons x xs => exact absurd ⟨_,rfl⟩ (Gives.not_fails ⟨s',gives⟩)
    | nil =>
      cases ending with
      | some f => exact absurd ⟨_,rfl⟩ (Gives.not_fails ⟨s',gives⟩)
      | none => exact congrArg get (Reading.pure_inj gives).symm
  | cons f fields ih =>
    obtain ⟨absent,distinct⟩ := List.nodup_cons.mp distinct
    have serves' : ∀ g ∈ fields, g.Serves name read get room := fun g member =>
      serves g (by simp [member])
    cases xs with
    | nil =>
      cases ending with
      | some f => exact absurd ⟨_,rfl⟩ (Gives.not_fails ⟨s',gives⟩)
      | none =>
        rw [ofList,Option.elim,fill] at gives
        rw [List.zip_nil_right]
        exact congrArg get (endOfList_gives gives)
    | cons x xs =>
      have here : Scanned room x := each x (by simp)
      obtain ⟨change,given,gives⟩ := ((serves f (by simp)).sure x here).bind_gives gives
      have rest := ih serves' distinct (fun y member => each y (by simp [member])) _ _ gives
      rw [List.map_cons,List.zip_cons_cons,List.lookup_cons]
      by_cases same : name = f.name
      · have none : ((fields.map (·.name)).zip xs).lookup name = none := by
          rw [Option.eq_none_iff_forall_ne_some]
          intro y found
          have member := (List.of_mem_zip (mem_of_lookup found)).1
          rw [same] at member
          exact absent member
        rw [none] at rest
        have after : get s' = get (change s) := rest
        rw [beq_iff_eq.mpr same,Filled,after]
        exact (serves f (by simp)).reads same.symm x change s here given
      · have framed := (serves f (by simp)).frame (Ne.symm same) x change s here given
        rw [beq_eq_false_iff_ne.mpr same]
        simp only [Filled,framed] at rest ⊢
        exact rest

end Fill

theorem Record.value_scanned (record : Record σ) (name : String) {r : Nat} {x v : Draft}
    (scanned : Scanned r x) (found : record.value? name x = some v) : Scanned (r - 1) v := by
  cases scanned with
  | leaf simple => cases simple <;> simp [value?] at found
  | array each =>
    rw [value?,Items.list_ofList] at found
    exact each v (List.of_mem_zip (mem_of_lookup found)).2
  | object known each => exact each _ (Members.mem_of_pairs (mem_of_lookup found))

/-- A record that is read has in the field of the name what the reader gives for its value. -/
theorem Record.read_value (record : Record σ) {name : String} {read : Draft → Reading α} {get : σ → α}
    {r : Nat} (serves : ∀ f ∈ record.fields, f.Serves name read get (r - 1))
    (listed : ∃ f ∈ record.fields, f.name = name)
    (distinct : (record.fields.map (·.name)).Nodup) {x : Draft} (scanned : Scanned r x) {s' : σ}
    (gives : record.read x = pure s') :
    Filled read get (record.value? name x) record.blank s' := by
  cases scanned with
  | leaf simple => cases simple <;> exact absurd ⟨_,rfl⟩ (Gives.not_fails ⟨s',gives⟩)
  | array each =>
    rw [read_array] at gives
    obtain ⟨_,_,gives⟩ := (enter_alike Iff.rfl).left.bind_gives gives
    rw [value?,Items.list_ofList]
    exact Items.fill_value serves distinct each _ _ _ _ _ gives
  | object known each =>
    rw [read_object] at gives
    obtain ⟨_,_,gives⟩ := (enter_alike Iff.rfl).left.bind_gives gives
    exact (Members.fill_value serves listed known each _ _ _ gives).2 List.not_mem_nil

end FlowClient
