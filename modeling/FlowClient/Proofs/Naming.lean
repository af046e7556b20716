import FlowClient.Naming.Identifier
import Mathlib.Data.List.Perm.Subperm
import Mathlib.Data.List.Nodup

/-! Names that avoid others by underscores at their end: what a fresh name and the identifier of a
parameter keep clear of. -/

namespace FlowClient

theorem toList_underscored (name : String) (count : Nat) :
    (underscored name count).toList = name.toList ++ List.replicate count '_' := by
  simp [underscored]

@[simp] theorem underscored_zero (name : String) : underscored name 0 = name := by
  simp [underscored]

theorem underscored_underscored (name : String) (first second : Nat) :
    underscored (underscored name first) second = underscored name (first + second) := by
  apply String.toList_inj.mp
  simp only [toList_underscored,List.append_assoc,List.replicate_append_replicate]

theorem underscored_injective (name : String) : Function.Injective (underscored name) := by
  intro first second equal
  have equal := congrArg (fun s => s.toList.length) equal
  simpa only [toList_underscored,List.length_append,List.length_replicate,
    Nat.add_left_cancel_iff] using equal

theorem underscored_succ_not_mem {words : List String} (name : String)
    (bare : ∀ word ∈ words, word.toList.getLast? ≠ some '_') (count : Nat) :
    underscored name (count + 1) ∉ words := by
  intro member
  apply bare _ member
  simp [toList_underscored,List.getLast?_append,List.getLast?_replicate]

theorem underscored_not_mem {words : List String} {name : String}
    (bare : ∀ word ∈ words, word.toList.getLast? ≠ some '_') (absent : name ∉ words)
    (count : Nat) : underscored name count ∉ words := by
  cases count with
  | zero => simpa using absent
  | succ count => exact underscored_succ_not_mem name bare count

/-- A fresh name is the name with underscores and is not taken: there are more candidates than taken
names. -/
theorem freshName_found (taken : List String) (name : String) :
    ∃ count, freshName taken name = underscored name count ∧ freshName taken name ∉ taken := by
  have distinct : ((List.range (taken.length + 1)).map (underscored name)).Nodup :=
    List.nodup_range.map (underscored_injective name)
  simp only [freshName]
  cases found : List.find? (fun candidate => !taken.contains candidate)
      ((List.range (taken.length + 1)).map (underscored name)) with
  | none =>
    have covered : (List.range (taken.length + 1)).map (underscored name) ⊆ taken := by
      intro candidate member
      simpa using List.find?_eq_none.mp found candidate member
    have few := (List.subperm_of_subset distinct covered).length_le
    simp only [List.length_map,List.length_range] at few
    omega
  | some candidate =>
    obtain ⟨count,_,equal⟩ := List.mem_map.mp (List.mem_of_find?_eq_some found)
    exact ⟨count,equal.symm,by simpa using List.find?_some found⟩

theorem freshName_not_mem (taken : List String) (name : String) : freshName taken name ∉ taken := by
  obtain ⟨_,_,absent⟩ := freshName_found taken name
  exact absent

theorem reserved_and_generated_bare :
    ∀ word ∈ reservedWords ++ generatedNames, word.toList.getLast? ≠ some '_' := by decide

/-- An identifier made of a name is no reserved word and no generated name, and none of them comes
about where underscores are added. -/
theorem parameterIdentifier_not_mem (name : String) (count : Nat) :
    underscored (parameterIdentifier name) count ∉ reservedWords ++ generatedNames := by
  unfold parameterIdentifier
  generalize String.ofList (identifierChars name.toList) = identifier
  dsimp only
  split
  · have one : identifier ++ "_" = underscored identifier 1 := rfl
    rw [one,underscored_underscored,Nat.add_comm]
    exact underscored_succ_not_mem identifier reserved_and_generated_bare count
  · rename_i clear
    apply underscored_not_mem reserved_and_generated_bare
    simpa [isReserved] using clear

end FlowClient
