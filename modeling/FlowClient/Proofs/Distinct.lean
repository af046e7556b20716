import Mathlib.Data.List.Induction
import Mathlib.Data.List.Nodup

/-! Lists without repeats. Each item keeps the place where it comes first. -/

namespace FlowClient

variable {α : Type} [BEq α] [LawfulBEq α]

theorem eraseDups_concat (items : List α) (item : α) : (items ++ [item]).eraseDups =
    if item ∈ items then items.eraseDups else items.eraseDups ++ [item] := by
  rw [List.eraseDups_append]
  by_cases member : item ∈ items <;> simp [List.removeAll,member,List.eraseDups_cons]

theorem nodup_eraseDups (items : List α) : items.eraseDups.Nodup := by
  induction items using List.reverseRecOn with
  | nil => simp
  | append_singleton items item ih =>
    rw [eraseDups_concat]
    split
    · exact ih
    · rename_i absent
      exact List.nodup_append'.mpr ⟨ih,List.nodup_singleton item,by simpa using absent⟩

theorem eraseDups_filter (items : List α) (p : α → Bool) :
    (items.filter p).eraseDups = items.eraseDups.filter p := by
  induction items using List.reverseRecOn with
  | nil => simp
  | append_singleton items item ih =>
    rw [List.filter_append,eraseDups_concat]
    cases holds : p item with
    | true =>
      rw [List.filter_singleton,holds,cond_true,eraseDups_concat,ih]
      by_cases member : item ∈ items <;> simp [member,holds]
    | false =>
      rw [List.filter_singleton,holds,cond_false,List.append_nil,ih]
      split <;> simp [holds]

theorem eraseDups_map {β : Type} [BEq β] [LawfulBEq β] {f : α → β} (injective : Function.Injective f)
    (items : List α) :
    (items.map f).eraseDups = items.eraseDups.map f := by
  induction items using List.reverseRecOn with
  | nil => simp
  | append_singleton items item ih =>
    have member : f item ∈ items.map f ↔ item ∈ items := List.mem_map_of_injective injective
    rw [List.map_append,List.map_singleton,eraseDups_concat,eraseDups_concat,ih]
    simp only [member]
    split
    · rfl
    · rw [List.map_append,List.map_singleton]

theorem eraseDups_order (items : List α) :
    items.eraseDups.Pairwise fun a b => items.idxOf a < items.idxOf b := by
  induction items using List.reverseRecOn with
  | nil => simp
  | append_singleton items item ih =>
    have kept {a : α} (member : a ∈ items) : (items ++ [item]).idxOf a = items.idxOf a :=
      List.idxOf_append_of_mem member
    have before : items.eraseDups.Pairwise fun a b =>
        (items ++ [item]).idxOf a < (items ++ [item]).idxOf b := by
      refine ih.imp_of_mem ?_
      intro a b left right less
      rw [kept (List.mem_eraseDups.mp left),kept (List.mem_eraseDups.mp right)]
      exact less
    rw [eraseDups_concat]
    split
    · exact before
    · rename_i absent
      refine List.pairwise_append.mpr ⟨before,List.pairwise_singleton _ _,?_⟩
      intro a left b right
      obtain rfl := List.mem_singleton.mp right
      have member := List.mem_eraseDups.mp left
      rw [kept member,List.idxOf_append_of_notMem absent]
      exact Nat.lt_of_lt_of_le (List.idxOf_lt_length_of_mem member) (Nat.le_add_right _ _)

end FlowClient
