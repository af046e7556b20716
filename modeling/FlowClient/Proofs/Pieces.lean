import Mathlib.Data.List.Infix

/-! Lists in pieces between separators. The pieces hold all but the separators, each as far as to the next one, and none
is empty unless separators stand at an end or side by side. -/

namespace FlowClient

variable {α : Type}

theorem splitOnP_flatten (p : α → Bool) (cs : List α) :
    (cs.splitOnP p).flatten = cs.filter fun c => !p c := by
  induction cs with
  | nil => simp
  | cons c cs ih =>
    rw [List.splitOnP_cons_eq_if_modifyHead,List.filter_cons,← ih]
    cases p c with
    | true => simp
    | false => cases pieces : cs.splitOnP p <;> simp_all [List.splitOnP_ne_nil]

theorem mem_splitOnP {p : α → Bool} {cs piece : List α} (member : piece ∈ cs.splitOnP p) {c : α}
    (inside : c ∈ piece) : c ∈ cs ∧ p c = false := by
  have kept : c ∈ cs.filter fun c => !p c := by
    rw [← splitOnP_flatten]
    exact List.mem_flatten.mpr ⟨piece,member,inside⟩
  simpa using kept

variable [BEq α] [LawfulBEq α] {x : α} {cs piece : List α}

theorem mem_splitOn (member : piece ∈ cs.splitOn x) {c : α} (inside : c ∈ piece) : c ∈ cs ∧ c ≠ x := by
  obtain ⟨kept,other⟩ := mem_splitOnP member inside
  exact ⟨kept,by simpa using other⟩

theorem splitOn_place (member : piece ∈ cs.splitOn x) : ∃ before after, cs = before ++ piece ++ after ∧
    (∀ c ∈ before.getLast?, c = x) ∧ ∀ c ∈ after.head?, c = x := by
  obtain ⟨first,later,split⟩ := List.append_of_mem member
  have whole : [x].intercalate (first ++ piece :: later) = cs := by
    rw [← split,List.intercalate_splitOn]
  clear member split
  induction first generalizing cs with
  | nil =>
    cases later with
    | nil => exact ⟨[],[],by simpa using whole.symm,by simp,by simp⟩
    | cons next later =>
      rw [List.nil_append,List.intercalate_cons_cons] at whole
      exact ⟨[],x :: [x].intercalate (next :: later),by simp [← whole],by simp,by simp⟩
  | cons earlier first ih =>
    obtain ⟨before,after,rest,left,right⟩ := ih rfl
    rw [List.cons_append,List.intercalate_cons_of_ne_nil (by simp),rest] at whole
    refine ⟨earlier ++ x :: before,after,by simp [← whole],?_,right⟩
    cases before with
    | nil => simp
    | cons c before => simpa using left

/-- A piece is empty only for want of a list, and where a separator comes first, last or behind another. -/
theorem nil_mem_splitOn : [] ∈ cs.splitOn x ↔
    cs = [] ∨ cs.head? = some x ∨ cs.getLast? = some x ∨ [x,x] <:+: cs := by
  constructor
  · intro member
    obtain ⟨before,after,whole,left,right⟩ := splitOn_place member
    rw [List.append_nil] at whole
    subst whole
    cases after with
    | nil =>
      rcases List.eq_nil_or_concat before with rfl | ⟨before,c,rfl⟩
      · exact .inl rfl
      · exact .inr (.inr (.inl (by simpa using left)))
    | cons d after =>
      obtain rfl : d = x := right d rfl
      rcases List.eq_nil_or_concat before with rfl | ⟨before,c,rfl⟩
      · exact .inr (.inl rfl)
      · obtain rfl : c = d := left c (by simp)
        exact .inr (.inr (.inr ⟨before,after,by simp⟩))
  · have apart (before after : List α) :
        (before ++ x :: after).splitOn x = before.splitOn x ++ after.splitOn x :=
      List.splitOn_append_cons_self before after
    have empty : [] ∈ ([] : List α).splitOn x := by simp
    rintro (rfl | first | last | ⟨before,after,rfl⟩)
    · exact empty
    · obtain ⟨rest,rfl⟩ := List.head?_eq_some_iff.mp first
      have split := apart [] rest
      rw [List.nil_append] at split
      rw [split]
      exact List.mem_append_left _ empty
    · obtain ⟨rest,rfl⟩ := List.getLast?_eq_some_iff.mp last
      rw [apart]
      exact List.mem_append_right _ empty
    · have whole : before ++ [x,x] ++ after = before ++ x :: ([] ++ x :: after) := by simp
      rw [whole,apart,apart]
      exact List.mem_append_right _ (List.mem_append_left _ empty)

end FlowClient
