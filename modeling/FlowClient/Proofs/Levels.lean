import FlowClient.Proofs.Typing

/-! Levels of typing. Typing that ends meets no schema twice on its way down, so there are enough levels
where there are as many as schemas; more of them change nothing. -/

namespace FlowClient

section Levels

variable {definitions : Table Schema}

theorem typeWithin?_mono {levels more : Nat} (enough : levels ≤ more) {s : Schema} {type : FlowType}
    (found : typeWithin? definitions levels s = some type) :
    typeWithin? definitions more s = some type := by
  induction levels generalizing s type more with
  | zero => cases found
  | succ levels ih =>
    obtain ⟨more,rfl⟩ := Nat.exists_eq_add_of_le' (Nat.lt_of_lt_of_le (Nat.succ_pos levels) enough)
    rw [typeWithin?_succ] at found ⊢
    rw [← found]
    apply typeFrom?_congr
    intro t next
    have typed := (typeFrom?_isSome _ _).mp (by rw [found]; rfl) t next
    obtain ⟨inner,here⟩ := Option.isSome_iff_exists.mp typed
    rw [here,ih (Nat.le_of_succ_le_succ enough) here]

theorem ends_of_typeWithin? {levels : Nat} {s : Schema}
    (typed : (typeWithin? definitions levels s).isSome = true) : s.Ends definitions := by
  induction levels generalizing s with
  | zero => cases typed
  | succ levels ih =>
    rw [typeWithin?_succ,typeFrom?_isSome] at typed
    exact Acc.intro s fun t next => ih (typed t next)

/-- A schema from which typing ends is not met again. -/
theorem Schema.Ends.not_back {s : Schema} (ends : s.Ends definitions) :
    ∀ t ∈ s.next definitions, ¬ t.Meets definitions s := by
  induction ends with
  | intro s _ ih =>
    intro t next back
    rcases Relation.ReflTransGen.cases_head back with rfl | ⟨u,after,back⟩
    · exact ih t next t next .refl
    · exact ih t next u after (back.tail next)

/-- Levels for all schemas that are met are enough: below a schema only the others are met. -/
theorem Schema.Ends.typeWithin?_isSome {s : Schema} (ends : s.Ends definitions) (met : List Schema)
    (all : ∀ t, s.Meets definitions t → t ∈ met) :
    (typeWithin? definitions met.length s).isSome = true := by
  induction ends generalizing met with
  | intro s inner ih =>
    obtain ⟨before,after,rfl⟩ := List.append_of_mem (all s .refl)
    have size : (before ++ s :: after).length = (before ++ after).length + 1 := by
      simp only [List.length_append,List.length_cons]
      omega
    rw [size,typeWithin?_succ,typeFrom?_isSome]
    intro t next
    apply ih t next
    intro u meets
    have other : u ≠ s := by
      rintro rfl
      exact Schema.Ends.not_back (Acc.intro u inner) t next meets
    simpa [other] using all u (meets.head next)

end Levels

/-! The schemas inside a schema and over a table are all that typing can meet. -/

section Inside

mutual

theorem Schema.inside_trans (t u : Schema) (inner : u ∈ t.inside) :
    ∀ s : Schema, t ∈ s.inside → u ∈ s.inside
  | ⟨_, _, _, _, _, properties, _, items, allOf, _, _, _⟩, outer => by
    simp only [Schema.inside,List.mem_append] at outer ⊢
    rcases outer with (property | item) | part
    · exact .inl (.inl (insideMembers_trans t u inner properties property))
    · exact .inl (.inr (insideItems_trans t u inner items item))
    · exact .inr (insideAll_trans t u inner allOf part)

theorem insideItems_trans (t u : Schema) (inner : u ∈ t.inside) :
    ∀ items : Option Schema, t ∈ insideItems items → u ∈ insideItems items
  | none, outer => by cases outer
  | some s, outer => by
    simp only [insideItems,List.mem_cons] at outer ⊢
    rcases outer with rfl | outer
    · exact .inr inner
    · exact .inr (Schema.inside_trans t u inner s outer)

theorem insideAll_trans (t u : Schema) (inner : u ∈ t.inside) :
    ∀ all : List Schema, t ∈ insideAll all → u ∈ insideAll all
  | [], outer => by cases outer
  | s :: rest, outer => by
    simp only [insideAll,List.cons_append,List.mem_cons,List.mem_append] at outer ⊢
    rcases outer with rfl | outer | outer
    · exact .inr (.inl inner)
    · exact .inr (.inl (Schema.inside_trans t u inner s outer))
    · exact .inr (.inr (insideAll_trans t u inner rest outer))

theorem insideMembers_trans (t u : Schema) (inner : u ∈ t.inside) :
    ∀ members : List (String × Schema), t ∈ insideMembers members → u ∈ insideMembers members
  | [], outer => by cases outer
  | (_, s) :: rest, outer => by
    simp only [insideMembers,List.cons_append,List.mem_cons,List.mem_append] at outer ⊢
    rcases outer with rfl | outer | outer
    · exact .inr (.inl inner)
    · exact .inr (.inl (Schema.inside_trans t u inner s outer))
    · exact .inr (.inr (insideMembers_trans t u inner rest outer))

end

theorem Schema.inside_below {s t u : Schema} (inner : t ∈ s.inside) (below : u ∈ t :: t.inside) :
    u ∈ s.inside := by
  rcases List.mem_cons.mp below with rfl | below
  · exact inner
  · exact Schema.inside_trans t u below s inner

theorem insideMembers_eq (members : List (String × Schema)) :
    insideMembers members = members.flatMap fun entry => entry.2 :: entry.2.inside := by
  induction members with
  | nil => rfl
  | cons entry rest ih => rw [insideMembers,ih,List.flatMap_cons]

theorem insideAll_eq (all : List Schema) : insideAll all = all.flatMap fun s => s :: s.inside := by
  induction all with
  | nil => rfl
  | cons s rest ih => rw [insideAll,ih,List.flatMap_cons]

theorem mem_insideMembers {members : List (String × Schema)} {name : String} {s : Schema}
    (member : (name,s) ∈ members) : s ∈ insideMembers members := by
  rw [insideMembers_eq]
  exact List.mem_flatMap.mpr ⟨_,member,List.mem_cons_self⟩

theorem mem_insideAll {all : List Schema} {s : Schema} (member : s ∈ all) : s ∈ insideAll all := by
  rw [insideAll_eq]
  exact List.mem_flatMap.mpr ⟨s,member,List.mem_cons_self⟩

theorem Schema.inside_eq (s : Schema) :
    s.inside = insideMembers s.properties ++ insideItems s.items ++ insideAll s.allOf := by
  cases s
  rfl

theorem property_inside {s : Schema} {name : String} {t : Schema} (member : (name,t) ∈ s.properties) :
    t ∈ s.inside := by
  rw [Schema.inside_eq,List.mem_append,List.mem_append]
  exact .inl (.inl (mem_insideMembers member))

theorem items_inside {s t : Schema} (item : s.items = some t) : t ∈ s.inside := by
  rw [Schema.inside_eq,List.mem_append,List.mem_append,item,insideItems]
  exact .inl (.inr (by simp))

theorem part_inside {s t : Schema} (part : t ∈ s.allOf) : t ∈ s.inside := by
  rw [Schema.inside_eq,List.mem_append]
  exact .inr (mem_insideAll part)

end Inside

theorem kind_composite {s : Schema} {parts : List Schema} (kind : s.kind = .composite parts) :
    parts = s.allOf := by
  unfold Schema.kind at kind
  split at kind
  · cases kind
  · split at kind
    · cases kind
      rfl
    · split at kind <;> cases kind

theorem kind_array {s : Schema} {items : Option Schema} (kind : s.kind = .array items) :
    items = s.items := by
  unfold Schema.kind at kind
  split at kind
  · cases kind
  · split at kind
    · cases kind
    · split at kind <;> cases kind
      rfl

theorem kind_reference {s : Schema} {name : String} (kind : s.kind = .reference name) :
    s.definitionName? = some name := by
  unfold Schema.kind at kind
  split at kind
  · rename_i found
    cases kind
    exact found
  · split at kind
    · cases kind
    · split at kind <;> cases kind

section Over

variable {definitions : Table Schema} {s t u : Schema}

theorem mem_schemasOver : t ∈ schemasOver definitions s ↔
    (t = s ∨ t ∈ s.inside) ∨ ∃ entry ∈ definitions, t = entry.2 ∨ t ∈ entry.2.inside := by
  simp only [schemasOver,List.cons_append,List.mem_cons,List.mem_append,List.mem_flatMap,or_assoc]

theorem inside_over (listed : t ∈ schemasOver definitions s) (inner : u ∈ t.inside) :
    u ∈ schemasOver definitions s := by
  rw [mem_schemasOver] at listed ⊢
  have within (root : Schema) (below : t = root ∨ t ∈ root.inside) : u ∈ root.inside := by
    rcases below with rfl | below
    · exact inner
    · exact Schema.inside_trans t u inner root below
  rcases listed with below | ⟨entry,member,below⟩
  · exact .inl (.inr (within s below))
  · exact .inr ⟨entry,member,.inr (within entry.2 below)⟩

theorem sources_cases {parts : List Schema} (source : u ∈ sources definitions t parts) :
    u = t ∨ (u ∈ parts ∧ u.definitionName? = none) ∨
      ∃ part ∈ parts, ∃ name, part.definitionName? = some name ∧ definitions.get? name = some u := by
  rcases List.mem_append.mp source with given | last
  · obtain ⟨part,member,stands⟩ := List.mem_filterMap.mp given
    unfold sourceOf? at stands
    split at stands
    · rename_i name refers
      exact .inr (.inr ⟨part,member,name,refers,stands⟩)
    · rename_i own
      cases stands
      exact .inr (.inl ⟨member,own⟩)
  · exact .inl (List.mem_singleton.mp last)

theorem source_over {parts : List Schema} (listed : t ∈ schemasOver definitions s)
    (kind : t.kind = .composite parts) (source : u ∈ sources definitions t parts) :
    u ∈ schemasOver definitions s := by
  rcases sources_cases source with rfl | ⟨member,_⟩ | ⟨_,_,name,_,found⟩
  · exact listed
  · exact inside_over listed (part_inside (kind_composite kind ▸ member))
  · exact mem_schemasOver.mpr (.inr ⟨(name,u),Table.mem_of_get? found,.inl rfl⟩)

theorem next_over (listed : t ∈ schemasOver definitions s) (next : u ∈ t.next definitions) :
    u ∈ schemasOver definitions s := by
  unfold Schema.next at next
  split at next
  · rename_i parts kind
    obtain ⟨⟨name,inner⟩,member,rfl⟩ := List.mem_map.mp next
    obtain ⟨source,stands,property⟩ := List.mem_flatMap.mp (Table.mem_of_ofEntries member)
    exact inside_over (source_over listed kind stands) (property_inside property)
  · obtain ⟨⟨name,inner⟩,member,rfl⟩ := List.mem_map.mp next
    exact inside_over listed (property_inside member)
  · rename_i items kind
    rw [kind_array kind,Option.mem_toList] at next
    exact inside_over listed (items_inside next)
  · cases next

theorem meets_over (meets : s.Meets definitions t) : t ∈ schemasOver definitions s := by
  induction meets with
  | refl => exact mem_schemasOver.mpr (.inl (.inl rfl))
  | tail _ next ih => exact next_over ih next

end Over

section Result

variable (definitions : Table Schema) (s : Schema)

/-- A schema has a type exactly where typing ends. -/
theorem typeOf?_isSome_iff : (typeOf? definitions s).isSome = true ↔ s.Ends definitions :=
  ⟨ends_of_typeWithin?,fun ends => ends.typeWithin?_isSome _ fun _ => meets_over⟩

/-- The type of a schema is what is found within any number of levels. -/
theorem typeOf?_eq_some_iff (type : FlowType) :
    typeOf? definitions s = some type ↔ ∃ levels, typeWithin? definitions levels s = some type := by
  refine ⟨fun found => ⟨_,found⟩,?_⟩
  rintro ⟨levels,found⟩
  have ends := ends_of_typeWithin? (Option.isSome_iff_exists.mpr ⟨type,found⟩)
  obtain ⟨other,typed⟩ := Option.isSome_iff_exists.mp ((typeOf?_isSome_iff definitions s).mpr ends)
  have first := typeWithin?_mono (Nat.le_max_left levels (levelsFor definitions s)) found
  have second := typeWithin?_mono (Nat.le_max_right levels (levelsFor definitions s)) typed
  rw [typed,← first,second]

variable {definitions s} in
/-- Typing that ends has a type for its result, and adds its names to those that are noted before. -/
theorem Schema.Ends.run (ends : s.Ends definitions) (before : List String) : ∃ type,
    (flowType definitions s).run before = some (type,before ++ type.names) := by
  obtain ⟨type,typed⟩ := Option.isSome_iff_exists.mp ((typeOf?_isSome_iff definitions s).mpr ends)
  refine ⟨type,?_⟩
  rw [flowType_notes definitions s before,typed]
  rfl

theorem typeOf?_eq_typeFrom? : typeOf? definitions s = s.typeFrom? definitions (typeOf? definitions) := by
  cases typed : typeOf? definitions s with
  | some type =>
    obtain ⟨levels,found⟩ := (typeOf?_eq_some_iff definitions s type).mp typed
    cases levels with
    | zero => cases found
    | succ levels =>
      rw [typeWithin?_succ] at found
      rw [← found]
      apply typeFrom?_congr
      intro t next
      have inner := (typeFrom?_isSome _ _).mp (by rw [found]; rfl) t next
      obtain ⟨part,here⟩ := Option.isSome_iff_exists.mp inner
      rw [here,(typeOf?_eq_some_iff definitions t part).mpr ⟨levels,here⟩]
  | none =>
    symm
    rw [← Option.not_isSome_iff_eq_none,typeFrom?_isSome]
    intro every
    have ends : s.Ends definitions :=
      Acc.intro s fun t next => (typeOf?_isSome_iff definitions t).mp (every t next)
    have found := (typeOf?_isSome_iff definitions s).mpr ends
    rw [typed] at found
    cases found

end Result

end FlowClient
