import FlowClient.Json.Draft
import FlowClient.Proofs.Scan
import Mathlib.Data.List.Nodup

/-! What a scanned value is kept as, and which of its readings stay alike: those of every value in which
no object repeats a key. -/

namespace FlowClient

open Reading (Alike Sure Gives)

mutual

/-- No object in the value has two members under one key. -/
def Draft.distinctKeys : Draft → Bool
  | .array _ _ items => items.distinctKeys
  | .object _ members => decide (members.pairs.map Prod.fst).Nodup && members.distinctKeys
  | .tagged _ d => d.distinctKeys
  | .deferred d => (d ()).distinctKeys
  | _ => true

def Items.distinctKeys : Items → Bool
  | .cons d rest => d.distinctKeys && rest.distinctKeys
  | _ => true

def Members.distinctKeys : Members → Bool
  | .cons _ d rest => d.distinctKeys && rest.distinctKeys
  | _ => true

end

theorem Items.distinctKeys_ofList {ending : Option Fault} {xs : List Draft}
    (distinct : (ofList ending xs).distinctKeys) : ∀ x ∈ xs, x.distinctKeys := by
  induction xs with
  | nil => simp
  | cons x xs ih =>
    simp only [ofList,distinctKeys,Bool.and_eq_true] at distinct
    exact List.forall_mem_cons.mpr ⟨distinct.1,ih distinct.2⟩

theorem Members.distinctKeys_ofPairs {ps : List (String × Draft)}
    (distinct : (ofPairs ps).distinctKeys) : ∀ p ∈ ps, p.2.distinctKeys := by
  induction ps with
  | nil => simp
  | cons p ps ih =>
    change (cons (named p).1 (named p).2 (ofPairs ps)).distinctKeys at distinct
    simp only [distinctKeys,Bool.and_eq_true] at distinct
    exact List.forall_mem_cons.mpr ⟨distinct.1,ih distinct.2⟩

section Json

variable (room : Nat)

theorem itemsWithin_eq (js : List Json) :
    Json.itemsWithin room js = .ofList none (js.map (Json.draftWithin room)) := by
  induction js with
  | nil => rfl
  | cons j js ih => rw [Json.itemsWithin,ih,List.map_cons,Items.ofList]

theorem membersWithin_eq (kvs : List (String × Json)) : Json.membersWithin room kvs =
    .ofPairs (kvs.map fun kv => (kv.1,kv.2.draftWithin room)) := by
  induction kvs with
  | nil => rfl
  | cons kv kvs ih =>
    rw [Json.membersWithin,ih]
    rfl

theorem depth_le_itemsDepth {js : List Json} {j : Json} (member : j ∈ js) :
    j.depth ≤ Json.depth.itemsDepth js := by
  induction js with
  | nil => simp at member
  | cons other js ih =>
    rw [Json.depth.itemsDepth]
    rcases List.mem_cons.mp member with rfl | member
    · exact Nat.le_max_left _ _
    · exact Nat.le_trans (ih member) (Nat.le_max_right _ _)

theorem depth_le_membersDepth {kvs : List (String × Json)} {kv : String × Json}
    (member : kv ∈ kvs) : kv.2.depth ≤ Json.depth.membersDepth kvs := by
  induction kvs with
  | nil => simp at member
  | cons other kvs ih =>
    rw [Json.depth.membersDepth]
    rcases List.mem_cons.mp member with rfl | member
    · exact Nat.le_max_left _ _
    · exact Nat.le_trans (ih member) (Nat.le_max_right _ _)

theorem insertMember_perm (key : String) (value : Json) (sorted : List (String × Json))
    (absent : key ∉ sorted.map Prod.fst) :
    (Json.insertMember key value sorted).Perm ((key,value) :: sorted) := by
  induction sorted with
  | nil => exact .refl _
  | cons kv sorted ih =>
    simp only [List.map_cons,List.mem_cons,not_or] at absent
    rw [Json.insertMember]
    split
    · exact .refl _
    · rw [if_neg absent.1]
      exact ((ih absent.2).cons kv).trans (.swap _ _ _)

theorem insertMembers_perm (kvs sorted : List (String × Json))
    (distinct : ((kvs ++ sorted).map Prod.fst).Nodup) :
    (kvs.foldl (fun sorted m => Json.insertMember m.1 m.2 sorted) sorted).Perm (kvs ++ sorted) := by
  induction kvs generalizing sorted with
  | nil => exact .refl _
  | cons kv kvs ih =>
    obtain ⟨absent,rest⟩ := List.nodup_cons.mp distinct
    have fresh : kv.1 ∉ sorted.map Prod.fst := fun here => absent (by simp at here ⊢; exact .inr here)
    have inserted := insertMember_perm kv.1 kv.2 sorted fresh
    have moved : (kvs ++ Json.insertMember kv.1 kv.2 sorted).Perm (kv :: kvs ++ sorted) :=
      (inserted.append_left kvs).trans List.perm_middle
    rw [List.foldl_cons]
    exact (ih _ ((moved.map Prod.fst).nodup_iff.mpr distinct)).trans moved

end Json

theorem ending_of_finish {ending : Option Fault} {done : Unit}
    (finished : Reading.finish ending = pure done) : ending = none := by
  cases ending with
  | none => rfl
  | some f => exact absurd ⟨f,rfl⟩ (Gives.not_fails ⟨done,finished⟩)

theorem Items.keep_sure (ending : Option Fault) {xs : List Draft} (sure : ∀ x ∈ xs, x.keep.Sure) :
    (ofList ending xs).keep.Sure := by
  rw [keep_eq,readAll_ofList]
  apply Alike.left
  apply (Reading.Decides.mapM sure).sure.self.bind
  intro as bs _ _
  exact (finish_sure ending).self.bind fun _ _ _ _ => .pure as bs

theorem Items.kept {ending : Option Fault} {xs : List Draft} (sure : ∀ x ∈ xs, x.keep.Sure)
    {js : List Json} (kept : (ofList ending xs).keep = pure js) : ending = none ∧
      xs.length = js.length ∧ ∀ pair ∈ xs.zip js, pair.1.keep = pure pair.2 := by
  rw [keep_eq,readAll_ofList] at kept
  obtain ⟨as,given,kept⟩ := (Reading.Decides.mapM sure).sure.bind_gives kept
  obtain ⟨_,finished,same⟩ := (finish_sure ending).bind_gives kept
  obtain rfl := Reading.pure_inj same
  exact ⟨ending_of_finish finished,Sure.mapM_gives sure given⟩

theorem Draft.Leaf.kept {x : Draft} (simple : x.Leaf) {j : Json} (kept : x.keep = pure j)
    (room : Nat) : j.draftWithin room = x := by
  cases simple with
  | flawed f passed => exact absurd ⟨f,rfl⟩ (Gives.not_fails ⟨j,kept⟩)
  | null =>
    obtain rfl : Json.null = j := Reading.pure_inj kept
    rfl
  | flag b =>
    obtain rfl : Json.bool b = j := Reading.pure_inj kept
    rfl
  | int i =>
    obtain rfl : Json.int i = j := Reading.pure_inj kept
    rfl
  | float z =>
    obtain rfl : Json.float z = j := Reading.pure_inj kept
    rfl
  | text s =>
    obtain rfl : Json.str s = j := Reading.pure_inj kept
    rfl

section Twin

variable {r room : Nat} (entered : r ≠ 0)

include entered

theorem array_twin (f : Fault) {xs : List Draft} {js : List Json} (size : xs.length = js.length)
    (enough : (Json.arr js).depth ≤ room)
    (each : ∀ x j, (x,j) ∈ xs.zip js → j.depth ≤ room - 1 →
      Twin (r - 1) (room - 1) x (j.draftWithin (room - 1))) :
    Twin r room (.array r (some f) (.ofList none xs)) ((Json.arr js).draftWithin room) := by
  rw [Json.depth] at enough
  have rooms : r = 0 ↔ room = 0 := iff_of_false entered (by omega)
  rw [Json.draftWithin,itemsWithin_eq]
  apply Twin.array rooms (by simpa using size)
  rw [List.zip_map_right]
  rintro _ pair
  obtain ⟨⟨x,j⟩,member,rfl⟩ := List.mem_map.mp pair
  have bound := depth_le_itemsDepth (List.of_mem_zip member).2
  exact each x j member (by omega)

theorem object_twin {ps : List (String × Draft)} {kvs : List (String × Json)}
    (distinct : (ps.map Prod.fst).Nodup) (keys : ps.map Prod.fst = kvs.map Prod.fst)
    (enough : (Json.ofMembers kvs).depth ≤ room)
    (each : ∀ key x j, (key,x) ∈ ps → (key,j) ∈ kvs → j.depth ≤ room - 1 →
      Twin (r - 1) (room - 1) x (j.draftWithin (room - 1))) :
    Twin r room (.object r (.ofPairs ps)) ((Json.ofMembers kvs).draftWithin room) := by
  have sorted := insertMembers_perm kvs [] (by simpa using keys ▸ distinct)
  rw [List.append_nil] at sorted
  rw [Json.ofMembers] at enough ⊢
  rw [Json.depth] at enough
  have rooms : r = 0 ↔ room = 0 := iff_of_false entered (by omega)
  rw [Json.draftWithin,membersWithin_eq]
  apply Twin.shuffled rooms ?_ distinct
  · intro key x y here there
    obtain ⟨⟨_,j⟩,found,same⟩ := List.mem_map.mp there
    obtain ⟨rfl,rfl⟩ := Prod.mk.inj same
    have bound : j.depth ≤ _ := depth_le_membersDepth found
    exact each _ x j here (sorted.mem_iff.mp found) (by omega)
  · rw [keys,List.map_map]
    exact (sorted.map Prod.fst).symm

end Twin

/-- A value that repeats no key is a twin of what it is kept as. -/
theorem Scanned.kept_twin {r : Nat} {x : Draft} (scanned : Scanned r x) (distinct : x.distinctKeys)
    {j : Json} (kept : x.keep = pure j) {room : Nat} (enough : j.depth ≤ room) :
    Twin r room x (j.draftWithin room) := by
  induction scanned generalizing j room with
  | leaf simple =>
    rw [simple.kept kept room]
    exact .leaf simple
  | @array r f ending xs each ih =>
    rw [Draft.keep_array] at kept
    obtain ⟨_,opened,kept⟩ := (enter_alike Iff.rfl).left.bind_gives kept
    have sure : ∀ x ∈ xs, x.keep.Sure := fun x member => (each x member).twin.keep.left
    obtain ⟨js,given,rfl⟩ := (Items.keep_sure ending sure).map_gives kept
    obtain ⟨rfl,size,parts⟩ := Items.kept sure given
    apply array_twin (Reading.ne_zero_of_enter _ opened) f size enough
    intro x j member fits
    have here := (List.of_mem_zip member).1
    exact ih x here (Items.distinctKeys_ofList distinct x here) (parts _ member) fits
  | @object r ending ms known each ih =>
    rw [Draft.keep_object,Members.keep_eq] at kept
    obtain ⟨_,opened,kept⟩ := (enter_alike Iff.rfl).left.bind_gives kept
    have sure : ∀ m ∈ ms, m.2.keep.Sure := fun m member => (each m member).twin.keep.left
    obtain ⟨kvs,given,rfl⟩ := (Members.readAll_sure ending known sure).map_gives kept
    obtain ⟨ps,made,among,parts⟩ := Members.readAll_gives known sure given
    rw [made] at distinct ⊢
    simp only [Draft.distinctKeys,Members.pairs_ofPairs,Bool.and_eq_true,decide_eq_true_eq] at distinct
    obtain ⟨nodup,inside⟩ := distinct
    have nodup' : (kvs.map Prod.fst).Nodup := parts.keys ▸ nodup
    apply object_twin (Reading.ne_zero_of_enter _ opened) nodup parts.keys enough
    intro key x j here there fits
    -- the keys differ, so that the value kept under the key is the one that stands there
    obtain ⟨j',given,kept⟩ := parts.mem here
    have one := List.inj_on_of_nodup_map nodup' there given rfl
    obtain rfl : j = j' := (Prod.mk.inj one).2
    exact ih _ (among _ here) (Members.distinctKeys_ofPairs inside _ here) kept fits

end FlowClient
