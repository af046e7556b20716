import FlowClient.Proofs.Kept
import FlowClient.Proofs.Typing

/-! Drafts of JSON values. Nothing in them is wrong: they can be passed over, settled as they are, and kept as the
value itself where its keys are in order. How much room they are given does not show. -/

namespace FlowClient

/-- The keys of each object in the value are in ascending order, each of them once. -/
inductive Json.Canonical : Json → Prop
  | null : Canonical .null
  | bool (b : Bool) : Canonical (.bool b)
  | int (i : Int) : Canonical (.int i)
  | float (x : Binary64) : Canonical (.float x)
  | str (s : String) : Canonical (.str s)
  | arr {items : List Json} (each : ∀ j ∈ items, Canonical j) : Canonical (.arr items)
  | obj {members : List (String × Json)} (sorted : (members.map Prod.fst).Pairwise (· < ·))
    (each : ∀ m ∈ members, Canonical m.2) : Canonical (.obj members)

section Decide

theorem canonical_arr_iff {items : List Json} :
    (Json.arr items).Canonical ↔ ∀ j ∈ items, j.Canonical :=
  ⟨fun | .arr each => each,.arr⟩

theorem canonical_obj_iff {members : List (String × Json)} : (Json.obj members).Canonical ↔
    (members.map Prod.fst).Pairwise (· < ·) ∧ ∀ m ∈ members, m.2.Canonical :=
  ⟨fun | .obj sorted each => ⟨sorted,each⟩,fun ⟨sorted,each⟩ => .obj sorted each⟩

mutual

def Json.decideCanonical : (j : Json) → Decidable j.Canonical
  | .null => isTrue .null
  | .bool b => isTrue (.bool b)
  | .int i => isTrue (.int i)
  | .float x => isTrue (.float x)
  | .str s => isTrue (.str s)
  | .arr items =>
    haveI := decideItems items
    decidable_of_iff' _ canonical_arr_iff
  | .obj members =>
    haveI := decideMembers members
    decidable_of_iff' _ canonical_obj_iff

def decideItems : (items : List Json) → Decidable (∀ j ∈ items, j.Canonical)
  | [] => isTrue (List.forall_mem_nil _)
  | j :: rest =>
    haveI := j.decideCanonical
    haveI := decideItems rest
    decidable_of_iff' _ List.forall_mem_cons

def decideMembers : (members : List (String × Json)) → Decidable (∀ m ∈ members, m.2.Canonical)
  | [] => isTrue (List.forall_mem_nil _)
  | (_, j) :: rest =>
    haveI := j.decideCanonical
    haveI := decideMembers rest
    decidable_of_iff' _ List.forall_mem_cons

end

instance : DecidablePred Json.Canonical := Json.decideCanonical

end Decide

@[elab_as_elim] theorem Json.parts {motive : Json → Prop} (null : motive .null)
    (bool : ∀ b, motive (.bool b)) (int : ∀ i, motive (.int i)) (float : ∀ x, motive (.float x))
    (str : ∀ s, motive (.str s)) (arr : ∀ items, (∀ j ∈ items, motive j) → motive (.arr items))
    (obj : ∀ members, (∀ m ∈ members, motive m.2) → motive (.obj members)) (j : Json) : motive j := by
  induction size : j.depth using Nat.strongRecOn generalizing j with
  | ind depth ih =>
    subst size
    cases j with
    | null => exact null
    | bool b => exact bool b
    | int i => exact int i
    | float x => exact float x
    | str s => exact str s
    | arr items =>
      exact arr items fun j member => ih _ (Nat.lt_succ_of_le (depth_le_itemsDepth member)) j rfl
    | obj members =>
      exact obj members fun m member => ih _ (Nat.lt_succ_of_le (depth_le_membersDepth member)) m.2 rfl

section Parts

variable {α : Type} {room : Nat}

theorem itemsDepth_le_iff {items : List Json} :
    Json.depth.itemsDepth items ≤ room ↔ ∀ j ∈ items, j.depth ≤ room := by
  induction items with
  | nil => simp [Json.depth.itemsDepth]
  | cons j items ih => rw [Json.depth.itemsDepth,Nat.max_le,ih,List.forall_mem_cons]

theorem membersDepth_le_iff {members : List (String × Json)} :
    Json.depth.membersDepth members ≤ room ↔ ∀ m ∈ members, m.2.depth ≤ room := by
  induction members with
  | nil => simp [Json.depth.membersDepth]
  | cons m members ih => rw [Json.depth.membersDepth,Nat.max_le,ih,List.forall_mem_cons]

theorem arr_room {items : List Json} (enough : (Json.arr items).depth ≤ room) :
    ∃ inner, room = inner + 1 ∧ ∀ j ∈ items, j.depth ≤ inner := by
  rw [Json.depth] at enough
  obtain ⟨inner,rfl⟩ := Nat.exists_eq_add_of_le' (Nat.le_trans (Nat.le_add_left 1 _) enough)
  exact ⟨inner,rfl,itemsDepth_le_iff.mp (Nat.le_of_succ_le_succ enough)⟩

theorem obj_room {members : List (String × Json)} (enough : (Json.obj members).depth ≤ room) :
    ∃ inner, room = inner + 1 ∧ ∀ m ∈ members, m.2.depth ≤ inner := by
  rw [Json.depth] at enough
  obtain ⟨inner,rfl⟩ := Nat.exists_eq_add_of_le' (Nat.le_trans (Nat.le_add_left 1 _) enough)
  exact ⟨inner,rfl,membersDepth_le_iff.mp (Nat.le_of_succ_le_succ enough)⟩

theorem readAll_itemsWithin {read : Draft → Reading α} {items : List Json} {values : List α}
    (each : List.Forall₂ (fun j a => read (j.draftWithin room) = pure a) items values) :
    (Json.itemsWithin room items).readAll read = pure values := by
  induction each with
  | nil => rfl
  | cons here _ ih => rw [Json.itemsWithin,Items.readAll,here,pure_bind,ih,pure_bind]

theorem readAll_membersWithin {read : Draft → Reading α} {members : List (String × Json)}
    {entries : List (String × α)} (each : List.Forall₂ (fun m e => m.1 = e.1 ∧
      read (m.2.draftWithin room) = pure e.2) members entries) :
    (Json.membersWithin room members).readAll read = pure entries := by
  induction each with
  | nil => rfl
  | cons here _ ih =>
    obtain ⟨name,given⟩ := here
    rw [Json.membersWithin,Members.readAll,Draft.text,pure_bind,given,pure_bind,ih,pure_bind,name]

end Parts

section Values

theorem mapM_pure_of {ι α : Type} {read : ι → Reading α} {value : ι → α} {items : List ι}
    (each : ∀ i ∈ items, read i = pure (value i)) : items.mapM read = pure (items.map value) :=
  (mapM_congr items each).trans (List.mapM_pure ..)

theorem pass_draftWithin (j : Json) (room : Nat) : (j.draftWithin room).pass = pure () := by
  induction j using Json.parts generalizing room with
  | null | bool | int | float | str => rfl
  | arr items each =>
    have parts : ∀ d ∈ items.map (Json.draftWithin (room - 1)), d.pass = pure () := by
      rw [List.forall_mem_map]
      exact fun j member => each j member _
    rw [Json.draftWithin,Draft.pass,itemsWithin_eq,Items.pass_ofList,mapM_pure_of parts,pure_bind]
    rfl
  | obj members each =>
    have parts : ∀ m ∈ (members.map fun m => (m.1,m.2.draftWithin (room - 1))).map Members.named,
        (m.1.pass >>= fun _ => m.2.pass) = pure () := by
      rw [List.forall_mem_map,List.forall_mem_map]
      exact fun m member => each m member _
    rw [Json.draftWithin,Draft.pass,membersWithin_eq,Members.ofPairs,Members.pass_ofList,
      mapM_pure_of parts,pure_bind]
    rfl

theorem settle_draftWithin {j : Json} {room : Nat} (enough : j.depth ≤ room) :
    (j.draftWithin room).settle = pure (j.draftWithin room) := by
  induction j using Json.parts generalizing room with
  | null | bool | int | float | str => rfl
  | arr items each =>
    obtain ⟨inner,rfl,deep⟩ := arr_room enough
    have parts : ∀ d ∈ items.map (Json.draftWithin inner), d.settle = pure (id d) := by
      rw [List.forall_mem_map]
      exact fun j member => each j member (deep j member)
    rw [Json.draftWithin,Nat.add_sub_cancel,itemsWithin_eq,Draft.settle_array,Items.settle_ofList,
      mapM_pure_of parts,List.map_id]
    rfl
  | obj members each =>
    obtain ⟨inner,rfl,deep⟩ := obj_room enough
    have parts : ∀ m ∈ (members.map fun m => (m.1,m.2.draftWithin inner)).map Members.named,
        (do let key ← m.1.settle; let d ← m.2.settle; return (key,d)) = pure (id m) := by
      rw [List.forall_mem_map,List.forall_mem_map]
      intro m member
      have here := each m member (deep m member)
      change (do let d ← (m.2.draftWithin inner).settle; return (_,d)) = _
      rw [here,pure_bind]
      rfl
    rw [Json.draftWithin,Nat.add_sub_cancel,membersWithin_eq,Draft.settle_object,Members.ofPairs,
      Members.settle_ofList,mapM_pure_of parts,List.map_id]
    rfl

theorem insertMember_last {key : String} {value : Json} {sorted : List (String × Json)}
    (after : ∀ name ∈ sorted.map Prod.fst, name < key) :
    Json.insertMember key value sorted = sorted ++ [(key,value)] := by
  induction sorted with
  | nil => rfl
  | cons m sorted ih =>
    obtain ⟨here,later⟩ := List.forall_mem_cons.mp after
    rw [Json.insertMember,if_neg (String.lt_asymm here),if_neg (String.ne_of_lt here).symm,ih later]
    rfl

theorem ofMembers_sorted {members : List (String × Json)}
    (sorted : (members.map Prod.fst).Pairwise (· < ·)) : Json.ofMembers members = .obj members := by
  -- Each member comes after all that are there, so it goes to the end.
  have all : members.foldl (fun sorted m => Json.insertMember m.1 m.2 sorted) [] = members := by
    induction members using List.reverseRecOn with
    | nil => rfl
    | append_singleton members m ih =>
      rw [List.map_append,List.pairwise_append] at sorted
      rw [List.foldl_append,ih sorted.1]
      exact insertMember_last fun name member => sorted.2.2 name member m.1 (by simp)
  rw [Json.ofMembers,all]

theorem Json.Canonical.keep_draftWithin {j : Json} (canonical : j.Canonical) {room : Nat}
    (enough : j.depth ≤ room) : (j.draftWithin room).keep = pure j := by
  induction canonical generalizing room with
  | null | bool | int | float | str => rfl
  | @arr items _ ih =>
    obtain ⟨inner,rfl,deep⟩ := arr_room enough
    have parts : List.Forall₂ (fun j a => (j.draftWithin inner).keep = pure a) items items :=
      List.forall₂_same.mpr fun j member => ih j member (deep j member)
    rw [Json.draftWithin,Nat.add_sub_cancel,Draft.keep_array,itemsWithin_eq,Items.keep_eq,
      ← itemsWithin_eq,readAll_itemsWithin parts]
    rfl
  | @obj members sorted _ ih =>
    obtain ⟨inner,rfl,deep⟩ := obj_room enough
    have parts : List.Forall₂ (fun m e => m.1 = e.1 ∧ (m.2.draftWithin inner).keep = pure e.2)
        members members :=
      List.forall₂_same.mpr fun m member => ⟨rfl,ih m member (deep m member)⟩
    rw [Json.draftWithin,Nat.add_sub_cancel,Draft.keep_object,membersWithin_eq,Members.ofPairs,
      Members.keep_eq,← Members.ofPairs,← membersWithin_eq,readAll_membersWithin parts,
      map_pure,ofMembers_sorted sorted]
    rfl

theorem twin_draftWithin {j : Json} {room other : Nat} (enough : j.depth ≤ room)
    (enough' : j.depth ≤ other) : Twin room other (j.draftWithin room) (j.draftWithin other) := by
  induction j using Json.parts generalizing room other with
  | null => exact .leaf .null
  | bool b => exact .leaf (.flag b)
  | int i => exact .leaf (.int i)
  | float x => exact .leaf (.float x)
  | str s => exact .leaf (.text s)
  | arr items each =>
    obtain ⟨inner,rfl,deep⟩ := arr_room enough
    obtain ⟨inner',rfl,deep'⟩ := arr_room enough'
    rw [Json.draftWithin,Json.draftWithin,itemsWithin_eq,itemsWithin_eq]
    apply Twin.array (by simp) (by simp)
    rw [List.zip_map,List.forall_mem_map]
    refine Reading.forall_zip_self fun j member => ?_
    exact each j member (deep j member) (deep' j member)
  | obj members each =>
    obtain ⟨inner,rfl,deep⟩ := obj_room enough
    obtain ⟨inner',rfl,deep'⟩ := obj_room enough'
    rw [Json.draftWithin,Json.draftWithin,membersWithin_eq,membersWithin_eq,Members.ofPairs,
      Members.ofPairs]
    apply Twin.object (by simp) (by simp [Members.named]) named_key
    rw [List.zip_map,List.forall_mem_map,List.zip_map,List.forall_mem_map]
    refine Reading.forall_zip_self fun m member => ?_
    exact each m member (deep m member) (deep' m member)

end Values

end FlowClient
