import FlowClient.Document.Encode
import FlowClient.Proofs.AgreeDocument
import FlowClient.Proofs.JsonDraft

/-! Values that readers restore from the drafts of their JSON values, and records restored field by field from
members in the order of the fields. -/

namespace FlowClient

variable {α β σ : Type} {n : Nat}

/-- From each draft of the value with less than this room, the reader gives what was written. -/
def Restores (n : Nat) (read : Draft → Reading α) (j : Json) (a : α) : Prop :=
  ∀ room, j.depth ≤ room → room < n → read (j.draftWithin room) = pure a

section Values

variable {read : Draft → Reading α} {write : α → Json}

theorem restores_text (s : String) : Restores n Draft.text (.str s) s := fun _ _ _ => rfl

theorem restores_flag (b : Bool) : Restores n Draft.flag (.bool b) b := fun _ _ _ => rfl

theorem restores_location (settled : Bool) (location : Location) :
    Restores n (Draft.variant settled Location.words) (.str location.word) location := by
  intro room _ _
  cases location <;> rfl

theorem Json.Canonical.restores {j : Json} (canonical : j.Canonical) : Restores n Draft.keep j j :=
  fun _ enough _ => canonical.keep_draftWithin enough

theorem Restores.mono {m : Nat} {j : Json} {a : α} (restores : Restores n read j a) (le : m ≤ n) :
    Restores m read j a :=
  fun room enough below => restores room enough (Nat.lt_of_lt_of_le below le)

theorem Restores.map {j : Json} {a : α} (restores : Restores n read j a) (f : α → β) :
    Restores n (fun d => f <$> read d) j (f a) := by
  intro room enough below
  change f <$> read (j.draftWithin room) = _
  rw [restores room enough below,map_pure]

theorem Restores.optional {j : Json} {a : α} (restores : Restores n read j a) (present : j ≠ .null) :
    Restores n (·.optional read) j (some a) := by
  intro room enough below
  have whole := restores.map some room enough below
  cases j with
  | null => exact absurd rfl present
  | bool | int | float | str | arr | obj => exact whole

theorem Restores.list {values : List α} (each : ∀ a ∈ values, Restores n read (write a) a) :
    Restores n (Draft.list read) (.arr (values.map write)) values := by
  intro room enough below
  obtain ⟨inner,rfl,deep⟩ := arr_room enough
  have parts : List.Forall₂ (fun j a => read (j.draftWithin inner) = pure a) (values.map write)
      values := by
    rw [List.forall₂_map_left_iff,List.forall₂_same]
    exact fun a member => each a member inner (deep _ (List.mem_map_of_mem member)) (by omega)
  exact readAll_itemsWithin parts

theorem Restores.table {t : Table α} (distinct : t.names.Nodup)
    (each : ∀ e ∈ t, Restores n read (write e.2) e.2) :
    Restores n (Draft.table read) (.obj (Table.toMembers write t)) t := by
  intro room enough below
  obtain ⟨inner,rfl,deep⟩ := obj_room enough
  have parts : List.Forall₂ (fun m e => m.1 = e.1 ∧ read (m.2.draftWithin inner) = pure e.2)
      (Table.toMembers write t) t := by
    rw [Table.toMembers,List.forall₂_map_left_iff,List.forall₂_same]
    exact fun e member => ⟨rfl,each e member inner (deep _ (List.mem_map_of_mem member)) (by omega)⟩
  change (Table.ofEntries <$> (Json.membersWithin inner (Table.toMembers write t)).readAll read) = _
  rw [readAll_membersWithin parts,map_pure,Table.ofEntries_eq distinct]

theorem Restores.settled {j : Json} {a : α} (restores : Restores n read j a) :
    Restores n (fun d => d.settle >>= read) j a := by
  intro room enough below
  change ((j.draftWithin room).settle >>= read) = _
  rw [settle_draftWithin enough,pure_bind]
  exact restores room enough below

end Values

theorem fill_foreign {fields : List (Field σ)} {members : List (String × Json)}
    (foreign : ∀ m ∈ members, ∀ f ∈ fields, f.name ≠ m.1) (room : Nat) {seen : List String} {s : σ}
    {result : Reading σ} (none : Members.closed.fill fields seen s = result) :
    (Json.membersWithin room members).fill fields seen s = result := by
  induction members with
  | nil => exact none
  | cons m members ih =>
    obtain ⟨here,later⟩ := List.forall_mem_cons.mp foreign
    have other : fields.find? (·.name == m.1) = .none :=
      List.find?_eq_none.mpr fun f member => by simpa using here f member
    simp only [Json.membersWithin,Members.fill,Draft.fieldOf?,other,pure_bind,pass_draftWithin]
    exact ih later

/-- The members give the fields in order, but for fields that may be left out, and take the record from its
first state to its last. -/
inductive Supplies (n : Nat) : List (Field σ) → List (String × Json) → σ → σ → Prop
  | done (s : σ) : Supplies n [] [] s s
  | left {f : Field σ} {fs : List (Field σ)} {ms : List (String × Json)} {s s' : σ}
    (idle : f.presence ≠ .required) (rest : Supplies n fs ms s s') : Supplies n (f :: fs) ms s s'
  | given {f : Field σ} {fs : List (Field σ)} {ms : List (String × Json)} {s s' : σ} {j : Json}
    {change : σ → σ} (reads : Restores n f.read j change) (rest : Supplies n fs ms (change s) s') :
    Supplies n (f :: fs) ((f.name,j) :: ms) s s'

namespace Supplies

variable {fs : List (Field σ)} {ms : List (String × Json)} {s s' : σ} {name : String}
  {read : Draft → Reading α} {write : α → Json}

theorem fill (supplies : Supplies n fs ms s s') (before : List (Field σ))
    (distinct : ((before ++ fs).map (·.name)).Nodup) {room : Nat} (below : room < n)
    (deep : ∀ m ∈ ms, m.2.depth ≤ room) (seen : List String) (fresh : ∀ f ∈ fs, f.name ∉ seen)
    (complete : Complete before seen) :
    (Json.membersWithin room ms).fill (before ++ fs) seen s = pure s' := by
  -- The fields that are done with move to those before; these are complete, and those left are unseen.
  induction supplies generalizing before seen with
  | done s =>
    have none : missing? (before ++ []) seen = none := by
      rw [List.append_nil,missing?,List.find?_eq_none]
      intro f member
      simpa using complete f member
    rw [Json.membersWithin,Members.fill,none]
  | @left f fs ms s s' idle _ ih =>
    rw [List.append_cons] at distinct ⊢
    apply ih _ distinct deep seen fun g member => fresh g (by simp [member])
    intro g member required
    rcases List.mem_append.mp member with early | last
    · exact complete g early required
    · rw [List.mem_singleton.mp last] at required
      exact absurd required idle
  | @given f fs ms s s' j change reads _ ih =>
    obtain ⟨here,later⟩ := List.forall_mem_cons.mp deep
    obtain ⟨unseen,rest⟩ := List.forall_mem_cons.mp fresh
    have found : (before ++ f :: fs).find? (·.name == f.name) = some f := by
      rw [List.map_append,List.nodup_append] at distinct
      rw [List.find?_append,List.find?_eq_none.mpr fun g member => ?_,Option.none_or,List.find?_cons,
        beq_self_eq_true]
      have apart := distinct.2.2 g.name (List.mem_map_of_mem member) f.name (by simp)
      simpa using apart
    have unlisted : seen.contains f.name = false := by simpa using unseen
    rw [Json.membersWithin,Members.fill,Draft.fieldOf?,found,pure_bind]
    simp only [unlisted,Bool.false_eq_true,if_false]
    rw [reads room here below,pure_bind,List.append_cons]
    rw [List.append_cons] at distinct
    apply ih _ distinct later (f.name :: seen)
    · intro g member
      rw [List.map_append,List.map_append,List.nodup_append] at distinct
      have apart := distinct.2.2 f.name (by simp) g.name (List.mem_map_of_mem member)
      simpa using ⟨Ne.symm apart,rest g member⟩
    · intro g member required
      rcases List.mem_append.mp member with early | last
      · exact List.mem_cons_of_mem _ (complete g early required)
      · rw [List.mem_singleton.mp last]
        exact List.mem_cons_self

theorem record {record : Record σ} {a : σ} (supplies : Supplies n record.fields (ms ++ []) record.blank a)
    (distinct : (record.fields.map (·.name)).Nodup) : Restores (n + 1) record.read (.obj ms) a := by
  intro room enough below
  obtain ⟨inner,rfl,deep⟩ := obj_room enough
  rw [List.append_nil] at supplies
  rw [Json.draftWithin,Record.read_object]
  exact supplies.fill [] distinct (Nat.lt_of_succ_lt_succ below) deep [] (by simp)
    fun _ none => absurd none List.not_mem_nil

theorem restores {record : Record σ} {a : σ} (supplies : Supplies n record.fields (ms ++ []) record.blank a)
    (distinct : (record.fields.map (·.name)).Nodup) : Restores n record.read (.obj ms) a :=
  (supplies.record distinct).mono (Nat.le_succ n)

theorem keys (supplies : Supplies n fs ms s s') : ∀ m ∈ ms, m.1 ∈ fs.map (·.name) := by
  induction supplies with
  | done => nofun
  | left _ _ ih => exact fun m member => List.mem_cons_of_mem _ (ih m member)
  | given _ _ ih =>
    exact List.forall_mem_cons.mpr ⟨List.mem_cons_self,
      fun m member => List.mem_cons_of_mem _ (ih m member)⟩

theorem of {presence : Presence} {set : α → σ → σ} {j : Json} {a : α} (reads : Restores n read j a)
    (rest : Supplies n fs ms (set a s) s') :
    Supplies n (.of name presence read set :: fs) ((name,j) :: ms) s s' :=
  .given (reads.map set) rest

theorem maybe {set : Option α → σ → σ} {value : Option α}
    (reads : ∀ a ∈ value, Restores n read (write a) a ∧ write a ≠ .null) (idle : set none s = s)
    (rest : Supplies n fs ms (set value s) s') :
    Supplies n (.maybe name read set :: fs) (memberIf name (value.map write) ++ ms) s s' := by
  cases value with
  | none =>
    rw [idle] at rest
    exact .left nofun rest
  | some a =>
    obtain ⟨restores,present⟩ := reads a rfl
    exact .of (restores.optional present) rest

theorem text {set : Option String → σ → σ} {value : Option String} (idle : set none s = s)
    (rest : Supplies n fs ms (set value s) s') :
    Supplies n (.maybe name Draft.text set :: fs) (memberIf name (value.map .str) ++ ms) s s' :=
  .maybe (fun a _ => ⟨restores_text a,nofun⟩) idle rest

theorem items {set : List α → σ → σ} {values : List α}
    (reads : ∀ a ∈ values, Restores n read (write a) a) (idle : set [] s = s)
    (rest : Supplies n fs ms (set values s) s') :
    Supplies n (.of name .defaulted (Draft.list read) set :: fs) (listIf name (values.map write) ++ ms)
      s s' := by
  cases values with
  | nil =>
    rw [idle] at rest
    exact .left nofun rest
  | cons a values => exact .of (.list reads) rest

theorem entries {set : Table α → σ → σ} {t : Table α} (distinct : t.names.Nodup)
    (reads : ∀ e ∈ t, Restores n read (write e.2) e.2) (idle : set [] s = s)
    (rest : Supplies n fs ms (set t s) s') :
    Supplies n (.of name .defaulted (Draft.table read) set :: fs)
      (tableIf name (Table.toMembers write t) ++ ms) s s' := by
  cases t with
  | nil =>
    rw [idle] at rest
    exact .left nofun rest
  | cons e t => exact .of (.table distinct reads) rest

end Supplies

end FlowClient
