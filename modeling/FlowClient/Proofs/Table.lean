import FlowClient.Proofs.Distinct
import FlowClient.Table

/-! What tables hold: under every key the value that was put there last. -/

namespace FlowClient

variable {α : Type}

theorem mem_of_lookup {entries : List (String × α)} {key : String} {value : α}
    (found : entries.lookup key = some value) : (key,value) ∈ entries := by
  obtain ⟨_,_,rfl,_⟩ := List.lookup_eq_some_iff.mp found
  simp

theorem lookup_of_mem {entries : List (String × α)} {key : String} {value : α}
    (distinct : (entries.map Prod.fst).Nodup) (member : (key, value) ∈ entries) :
    entries.lookup key = some value := by
  obtain ⟨before,after,rfl⟩ := List.append_of_mem member
  rw [List.lookup_eq_some_iff]
  refine ⟨before,after,rfl,?_⟩
  intro entry inside
  simp only [List.map_append,List.map_cons,List.nodup_append] at distinct
  have apart := distinct.2.2 entry.1 (List.mem_map_of_mem inside) key (by simp)
  simpa using Ne.symm apart

theorem get?_eq_none {t : Table α} {name : String} :
    t.get? name = none ↔ name ∉ t.names := by
  rw [Table.get?,Table.names,List.lookup_eq_none_iff]
  simp only [bne_iff_ne,List.mem_map,not_exists,not_and]
  exact ⟨fun apart entry member same => apart entry member same.symm,
    fun absent entry member same => absent entry member same.symm⟩

namespace Table

theorem names_insert (t : Table α) (name : String) (value : α) :
    names (t.insert name value) = if name ∈ t.names then t.names else t.names ++ [name] := by
  induction t with
  | nil => rfl
  | cons entry t ih =>
    obtain ⟨n,v⟩ := entry
    by_cases same : n = name
    · simp [insert,names,same]
    · have apart : name ≠ n := fun eq => same eq.symm
      simp only [names,insert,same,if_false,List.map_cons,List.mem_cons,apart,false_or] at ih ⊢
      rw [ih]
      by_cases member : name ∈ t.map Prod.fst
      · simp [member]
      · simp [member]

theorem mem_insert (t : Table α) (name : String) (value : α) (distinct : t.names.Nodup)
    (key : String) (v : α) : (key,v) ∈ t.insert name value ↔
      (key = name ∧ v = value) ∨ (key ≠ name ∧ (key,v) ∈ t) := by
  induction t with
  | nil => simp [insert]
  | cons entry t ih =>
    obtain ⟨n,w⟩ := entry
    obtain ⟨absent,distinct⟩ := List.nodup_cons.mp distinct
    have later (here : (key,v) ∈ t) : key ≠ n := by
      rintro rfl
      exact absent (List.mem_map.mpr ⟨_,here,rfl⟩)
    by_cases same : n = name
    · subst same
      simp only [insert,if_true,List.mem_cons,Prod.mk.injEq]
      grind
    · simp only [insert,same,if_false,List.mem_cons,Prod.mk.injEq,ih distinct]
      grind

theorem ofEntries_append (entries : List (String × α)) (name : String) (value : α) :
    ofEntries (entries ++ [(name,value)]) = (ofEntries entries).insert name value := by
  simp [ofEntries]

theorem names_ofEntries (entries : List (String × α)) :
    names (ofEntries entries) = (names entries).eraseDups := by
  induction entries using List.reverseRecOn with
  | nil => rfl
  | append_singleton entries entry ih =>
    obtain ⟨name,value⟩ := entry
    have after : names (entries ++ [(name,value)]) = names entries ++ [name] := List.map_append
    rw [ofEntries_append,names_insert,after,eraseDups_concat,ih]
    simp only [List.mem_eraseDups]

theorem ofEntries_nodup (entries : List (String × α)) : (names (ofEntries entries)).Nodup := by
  rw [names_ofEntries]
  exact nodup_eraseDups _

/-- A table of entries holds under a key the last of the values given for it. -/
theorem mem_ofEntries (entries : List (String × α)) (key : String) (v : α) :
    (key,v) ∈ ofEntries entries ↔ entries.reverse.lookup key = some v := by
  induction entries using List.reverseRecOn with
  | nil => simp [ofEntries]
  | append_singleton entries entry ih =>
    rw [ofEntries_append,mem_insert _ _ _ (ofEntries_nodup entries),ih,List.reverse_append]
    obtain ⟨name,value⟩ := entry
    change _ ↔ ((name,value) :: entries.reverse).lookup key = some v
    by_cases same : key = name
    · simp [same,eq_comm]
    · simp [same,List.lookup_cons,beq_eq_false_iff_ne.mpr same]

theorem insert_absent {t : Table α} {name : String} (absent : name ∉ t.names) (value : α) :
    t.insert name value = t ++ [(name,value)] := by
  induction t with
  | nil => rfl
  | cons entry t ih =>
    obtain ⟨here,later⟩ := not_or.mp fun either => absent (List.mem_cons.mpr either)
    rw [insert,if_neg (Ne.symm here),ih later]
    rfl

theorem ofEntries_eq {entries : List (String × α)} (distinct : (names entries).Nodup) :
    ofEntries entries = entries := by
  induction entries using List.reverseRecOn with
  | nil => rfl
  | append_singleton entries entry ih =>
    rw [names,List.map_append,List.nodup_append] at distinct
    rw [ofEntries_append,ih distinct.1]
    refine insert_absent (fun member => ?_) entry.2
    exact distinct.2.2 entry.1 member entry.1 (by simp) rfl

theorem mem_of_ofEntries {entries : List (String × α)} {entry : String × α}
    (member : entry ∈ ofEntries entries) : entry ∈ entries :=
  List.mem_reverse.mp (mem_of_lookup ((mem_ofEntries entries entry.1 entry.2).mp member))

theorem mem_of_get? {t : Table α} {name : String} {value : α} (found : t.get? name = some value) :
    (name,value) ∈ t :=
  mem_of_lookup found

theorem mem_names_of_get? {t : Table α} {name : String} {value : α}
    (found : t.get? name = some value) : name ∈ t.names :=
  List.mem_map.mpr ⟨(name,value),mem_of_get? found,rfl⟩

end Table

end FlowClient
