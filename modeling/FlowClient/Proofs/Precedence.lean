import FlowClient.Endpoint
import FlowClient.Proofs.Distinct

/-! Precedence of arguments. An operation's own arguments come before those of its path, of which only the first of
each name and placement is taken, and none that the operation has itself. -/

namespace FlowClient

/-- What tells arguments apart. -/
def Argument.key (a : Argument) : String × Placement := (a.name,a.placement)

/-- What is taken from a path: for each key of the path that is not an own one, in the order in which these keys come
first, the first argument that has it. -/
structure Supplement (own shared added : List Argument) : Prop where
  keys : added.map Argument.key =
    ((shared.map Argument.key).filter (· ∉ own.map Argument.key)).eraseDups
  first : ∀ a ∈ added, shared.find? (·.key = a.key) = some a

section Steps

theorem any_key {arguments : List Argument} {a : Argument} :
    (arguments.any fun b => b.name = a.name && b.placement = a.placement) = true ↔
      a.key ∈ arguments.map Argument.key := by
  simp [Argument.key]

theorem addArgument_present {arguments : List Argument} {a : Argument}
    (present : a.key ∈ arguments.map Argument.key) : addArgument arguments a = arguments :=
  if_pos (any_key.mpr present)

theorem addArgument_absent {arguments : List Argument} {a : Argument}
    (absent : a.key ∉ arguments.map Argument.key) : addArgument arguments a = arguments ++ [a] :=
  if_neg fun found => absent (any_key.mp found)

variable {own shared added : List Argument} {a : Argument} (s : Supplement own shared added)

include s

theorem Supplement.mem_keys {key : String × Placement} : key ∈ added.map Argument.key ↔
    key ∈ shared.map Argument.key ∧ key ∉ own.map Argument.key := by
  rw [s.keys,List.mem_eraseDups,List.mem_filter,decide_eq_true_eq]

theorem Supplement.still_first (b : Argument) (member : b ∈ added) :
    (shared ++ [a]).find? (·.key = b.key) = some b := by
  rw [List.find?_append,s.first b member,Option.some_or]

theorem Supplement.keep (present : a.key ∈ (own ++ added).map Argument.key) :
    Supplement own (shared ++ [a]) added := by
  refine ⟨?_,s.still_first⟩
  rw [s.keys,List.map_append,List.filter_append,List.map_singleton]
  by_cases isOwn : a.key ∈ own.map Argument.key
  · rw [List.filter_cons_of_neg (by simpa using isOwn),List.filter_nil,List.append_nil]
  · -- No own key, so the path has supplied it before.
    rw [List.map_append,List.mem_append] at present
    have listed := s.mem_keys.mp (present.resolve_left isOwn)
    have inside : a.key ∈ (shared.map Argument.key).filter (· ∉ own.map Argument.key) :=
      List.mem_filter.mpr ⟨listed.1,by simpa using listed.2⟩
    rw [List.filter_cons_of_pos (by simpa using isOwn),List.filter_nil,eraseDups_concat,if_pos inside]

theorem Supplement.extend (absent : a.key ∉ (own ++ added).map Argument.key) :
    Supplement own (shared ++ [a]) (added ++ [a]) := by
  rw [List.map_append,List.mem_append,not_or] at absent
  obtain ⟨notOwn,notAdded⟩ := absent
  have unshared : a.key ∉ shared.map Argument.key := fun listed => notAdded (s.mem_keys.mpr ⟨listed,notOwn⟩)
  refine ⟨?_,?_⟩
  · have outside : a.key ∉ (shared.map Argument.key).filter (· ∉ own.map Argument.key) :=
      fun inside => unshared (List.mem_of_mem_filter inside)
    rw [List.map_append,List.map_append,List.filter_append,List.map_singleton,s.keys,
      List.filter_cons_of_pos (by simpa using notOwn),List.filter_nil,eraseDups_concat,if_neg outside]
  · intro b member
    rcases List.mem_append.mp member with before | last
    · exact s.still_first b before
    · obtain rfl := List.mem_singleton.mp last
      have none : shared.find? (·.key = b.key) = none := by
        rw [List.find?_eq_none]
        intro c inside same
        exact unshared (List.mem_map.mpr ⟨c,inside,of_decide_eq_true same⟩)
      rw [List.find?_append,none,Option.none_or]
      simp

end Steps

section Merging

variable (own shared : List Argument)

theorem exists_supplement : ∃ added, mergeArguments own shared = own ++ added ∧
    Supplement own shared added := by
  -- The list that grows is the own arguments with what the path has supplied so far.
  induction shared using List.reverseRecOn with
  | nil => exact ⟨[],(List.append_nil own).symm,rfl,List.forall_mem_nil _⟩
  | append_singleton shared a ih =>
    obtain ⟨added,merged,s⟩ := ih
    have step : mergeArguments own (shared ++ [a]) = addArgument (own ++ added) a := by
      rw [← merged,mergeArguments,List.foldl_append]
      rfl
    by_cases present : a.key ∈ (own ++ added).map Argument.key
    · exact ⟨added,step.trans (addArgument_present present),s.keep present⟩
    · refine ⟨added ++ [a],?_,s.extend present⟩
      rw [step,addArgument_absent present,List.append_assoc]

variable {own shared}

theorem mergeArguments_present (present : ∀ a ∈ shared, a.key ∈ own.map Argument.key) :
    mergeArguments own shared = own := by
  induction shared with
  | nil => rfl
  | cons a shared ih =>
    rw [mergeArguments,List.foldl_cons,addArgument_present (present a (by simp))]
    exact ih fun b member => present b (by simp [member])

end Merging

/-- The own arguments stay as they are, and what the path supplies follows them. So no key is lost, an own argument is
the one that is found under its key, no key is supplied twice, and merging once more changes nothing. -/
theorem own_arguments_precede (own shared : List Argument) : ∃ added,
    mergeArguments own shared = own ++ added ∧ Supplement own shared added ∧
    (∀ a ∈ own ++ shared, ∃ b ∈ mergeArguments own shared, b.key = a.key) ∧
    (∀ a ∈ own, (mergeArguments own shared).find? (·.key = a.key) = own.find? (·.key = a.key)) ∧
    (∀ a ∈ shared, a.key ∉ own.map Argument.key →
      ((mergeArguments own shared).map Argument.key).count a.key = 1) ∧
    mergeArguments (mergeArguments own shared) shared = mergeArguments own shared := by
  obtain ⟨added,merged,s⟩ := exists_supplement own shared
  have present : ∀ a ∈ own ++ shared, a.key ∈ (own ++ added).map Argument.key := by
    intro a member
    rw [List.map_append,List.mem_append,s.mem_keys]
    rcases List.mem_append.mp member with isOwn | listed
    · exact .inl (List.mem_map_of_mem isOwn)
    · by_cases isOwn : a.key ∈ own.map Argument.key
      · exact .inl isOwn
      · exact .inr ⟨List.mem_map_of_mem listed,isOwn⟩
  rw [merged]
  refine ⟨added,rfl,s,?_,?_,?_,?_⟩
  · intro a member
    exact List.mem_map.mp (present a member)
  · intro a member
    have found : (own.find? (·.key = a.key)).isSome = true :=
      List.find?_isSome.mpr ⟨a,member,decide_eq_true rfl⟩
    rw [List.find?_append,Option.or_of_isSome found]
  · intro a listed notOwn
    have distinct : (added.map Argument.key).Nodup := s.keys ▸ nodup_eraseDups _
    have once := List.count_eq_one_of_mem distinct (s.mem_keys.mpr ⟨List.mem_map_of_mem listed,notOwn⟩)
    rw [List.map_append,List.count_append,List.count_eq_zero.mpr notOwn,once]
  · exact mergeArguments_present fun a listed => present a (List.mem_append_right own listed)

/-- An operation that takes a placeholder twice, and a path with its own one, a namesake in the query and repeats. -/
def tripArguments : List Argument := [
  ⟨"id", .path, true, some (.ofType "integer"), none⟩,
  ⟨"id", .path, true, some (.ofType "string"), none⟩]

def tripsPathArguments : List Argument := [
  ⟨"id", .path, true, none, none⟩,
  ⟨"limit", .query, true, some (.ofType "integer"), none⟩,
  ⟨"id", .query, false, none, none⟩,
  ⟨"limit", .query, false, none, some "How many trips."⟩,
  ⟨"limit", .formData, false, none, none⟩]

theorem own_arguments_precede_trips : ∃ added,
    mergeArguments tripArguments tripsPathArguments = tripArguments ++ added ∧
      Supplement tripArguments tripsPathArguments added ∧
      added.map Argument.key = [("limit",.query),("id",.query),("limit",.formData)] ∧
      ((mergeArguments tripArguments tripsPathArguments).map Argument.key).count ("limit",.query) = 1 ∧
      (mergeArguments tripArguments tripsPathArguments).find? (·.key = ("id",.path)) =
        tripArguments.find? (·.key = ("id",.path)) := by
  obtain ⟨added,merged,supplement,_,own,single,_⟩ :=
    own_arguments_precede tripArguments tripsPathArguments
  refine ⟨added,merged,supplement,?_,?_,?_⟩
  · rw [supplement.keys]
    decide
  · exact single ⟨"limit", .query, true, some (.ofType "integer"), none⟩ (by simp [tripsPathArguments])
      (by decide)
  · exact own ⟨"id", .path, true, some (.ofType "integer"), none⟩ (by simp [tripArguments])

end FlowClient
