import FlowClient.Proofs.Levels
import Mathlib.Data.Set.Finite.List
import Mathlib.Order.WellFoundedSet

/-! Feeding. A definition feeds another one where a composition inside its properties has a part that refers to the
other. Plain references lead nowhere, so typing ends for every schema where no definition feeds itself in the end. -/

namespace FlowClient

/-- What is found in a schema by its properties, its items and the parts that are written in its composition. A
reference to a definition is not followed, and nothing else is found there. -/
inductive Schema.Holds : Schema → Schema → Prop
  | self (s : Schema) : Holds s s
  | property {s t u : Schema} {name : String} (own : s.definitionName? = none)
      (member : (name,t) ∈ s.properties) (held : Holds t u) : Holds s u
  | items {s t u : Schema} (own : s.definitionName? = none) (item : s.items = some t)
      (held : Holds t u) : Holds s u
  | part {s t u : Schema} (own : s.definitionName? = none) (part : t ∈ s.allOf)
      (inline : t.definitionName? = none) (held : Holds t u) : Holds s u

/-- A composition found in the schema has a part that refers to the definition. -/
def Schema.Takes (s : Schema) (name : String) : Prop :=
  ∃ t parts, s.Holds t ∧ t.kind = .composite parts ∧ ∃ part ∈ parts, part.definitionName? = some name

/-- A property of the first definition takes from the second. -/
def Feeds (definitions : Table Schema) (first second : String) : Prop :=
  ∃ s, definitions.get? first = some s ∧ ∃ t ∈ s.properties.map Prod.snd, t.Takes second

section Found

theorem Schema.Holds.trans {s t u : Schema} (first : s.Holds t) (second : t.Holds u) : s.Holds u := by
  induction first with
  | self => exact second
  | property own member _ ih => exact .property own member (ih second)
  | items own item _ ih => exact .items own item (ih second)
  | part own part inline _ ih => exact .part own part inline (ih second)

theorem Schema.Holds.takes {s t : Schema} {name : String} (held : s.Holds t) (takes : t.Takes name) :
    s.Takes name := by
  obtain ⟨u,parts,inner,kind,refers⟩ := takes
  exact ⟨u,parts,held.trans inner,kind,refers⟩

theorem Schema.Holds.inside {s t : Schema} (held : s.Holds t) : t ∈ s :: s.inside := by
  have deeper {s t u : Schema} (inner : t ∈ s.inside) (below : u ∈ t :: t.inside) : u ∈ s :: s.inside :=
    List.mem_cons_of_mem s (Schema.inside_below inner below)
  induction held with
  | self => exact List.mem_cons_self
  | property _ member _ ih => exact deeper (property_inside member) ih
  | items _ item _ ih => exact deeper (items_inside item) ih
  | part _ part _ _ ih => exact deeper (part_inside part) ih

theorem property_size {s t : Schema} {name : String} (member : (name,t) ∈ s.properties) :
    sizeOf t < sizeOf s := by
  have entry := List.sizeOf_lt_of_mem member
  cases s
  simp only [Schema.mk.sizeOf_spec,Prod.mk.sizeOf_spec] at entry ⊢
  omega

theorem items_size {s t : Schema} (item : s.items = some t) : sizeOf t < sizeOf s := by
  cases s
  obtain rfl := item
  simp only [Schema.mk.sizeOf_spec,Option.some.sizeOf_spec]
  omega

theorem part_size {s t : Schema} (part : t ∈ s.allOf) : sizeOf t < sizeOf s := by
  have entry := List.sizeOf_lt_of_mem part
  cases s
  simp only [Schema.mk.sizeOf_spec] at entry ⊢
  omega

end Found

section Ends

variable {definitions : Table Schema} {s t : Schema}

theorem next_own (next : t ∈ s.next definitions) : s.definitionName? = none := by
  cases refers : s.definitionName? with
  | none => rfl
  | some name =>
    have kind : s.kind = .reference name := by rw [Schema.kind,refers]
    rw [Schema.next,kind] at next
    cases next

theorem next_cases (next : t ∈ s.next definitions) : (s.Holds t ∧ sizeOf t < sizeOf s) ∨
    ∃ name d, s.Takes name ∧ definitions.get? name = some d ∧ t ∈ d.properties.map Prod.snd := by
  have own := next_own next
  have property {name : String} (member : (name,t) ∈ s.properties) : s.Holds t ∧ sizeOf t < sizeOf s :=
    ⟨.property own member (.self t),property_size member⟩
  unfold Schema.next at next
  split at next
  · rename_i parts kind
    obtain ⟨⟨name,_⟩,member,rfl⟩ := List.mem_map.mp next
    obtain ⟨source,stands,declared⟩ := List.mem_flatMap.mp (Table.mem_of_ofEntries member)
    rcases sources_cases stands with rfl | ⟨listed,inline⟩ | ⟨part,listed,name,refers,found⟩
    · exact .inl (property declared)
    · rw [kind_composite kind] at listed
      exact .inl ⟨.part own listed inline (.property inline declared (.self _)),
        (property_size declared).trans (part_size listed)⟩
    · exact .inr ⟨name,source,⟨s,parts,.self s,kind,part,listed,refers⟩,found,
        List.mem_map_of_mem declared⟩
  · obtain ⟨⟨name,_⟩,member,rfl⟩ := List.mem_map.mp next
    exact .inl (property member)
  · rename_i items kind
    rw [kind_array kind,Option.mem_toList] at next
    exact .inl ⟨.items own next (.self t),items_size next⟩
  · cases next

/-- Typing of a schema ends where it does for the properties of all definitions that the schema takes from. -/
theorem Schema.Ends.of_taken (s : Schema) (taken : ∀ name d, s.Takes name → definitions.get? name = some d →
    ∀ t ∈ d.properties.map Prod.snd, t.Ends definitions) : s.Ends definitions := by
  induction size : sizeOf s using Nat.strong_induction_on generalizing s with
  | _ n ih =>
    subst size
    refine Acc.intro s fun t next => ?_
    -- What is found in `t` is found in `s`, so `t` takes from no further definitions.
    rcases next_cases next with ⟨held,smaller⟩ | ⟨name,d,takes,found,property⟩
    · exact ih (sizeOf t) smaller t (fun name d takes => taken name d (held.takes takes)) rfl
    · exact taken name d takes found t property

end Ends

section Acyclic

variable {definitions : Table Schema}

/-- Numbers that grow from each definition to those that its properties take from leave no way back. -/
theorem acyclic_of_rank (rank : String → Nat)
    (grows : ∀ entry ∈ definitions, ∀ property ∈ entry.2.properties,
      ∀ t ∈ property.2 :: property.2.inside, ∀ part ∈ t.allOf, ∀ name ∈ part.definitionName?,
        rank entry.1 < rank name) (name : String) :
    ¬ Relation.TransGen (Feeds definitions) name name := by
  have step {first second : String} (feeds : Feeds definitions first second) :
      rank first < rank second := by
    obtain ⟨s,found,t,property,u,parts,held,kind,part,member,refers⟩ := feeds
    obtain ⟨entry,present,rfl⟩ := List.mem_map.mp property
    exact grows (first,s) (Table.mem_of_get? found) entry present u held.inside part
      (kind_composite kind ▸ member) second refers
  have chain {first second : String} (feeds : Relation.TransGen (Feeds definitions) first second) :
      rank first < rank second := by
    induction feeds with
    | single feeds => exact step feeds
    | tail _ feeds ih => exact ih.trans (step feeds)
  exact fun back => Nat.lt_irrefl _ (chain back)

variable (acyclic : ∀ name, ¬ Relation.TransGen (Feeds definitions) name name)

include acyclic

theorem feeds_wellFounded : {name | name ∈ definitions.names}.WellFoundedOn
    fun second first => Relation.TransGen (Feeds definitions) first second := by
  -- Chains that do not return order the names of the table, of which there are finitely many.
  have order : IsStrictOrder String fun second first => Relation.TransGen (Feeds definitions) first second :=
    { irrefl := acyclic, trans := fun _ _ _ later earlier => earlier.trans later }
  exact (List.finite_toSet _).wellFoundedOn

theorem properties_end {name : String} {d : Schema} (found : definitions.get? name = some d) :
    ∀ t ∈ d.properties.map Prod.snd, t.Ends definitions := by
  have all := (feeds_wellFounded acyclic).induction (Table.mem_names_of_get? found)
    (P := fun name => ∀ d, definitions.get? name = some d →
      ∀ t ∈ d.properties.map Prod.snd, t.Ends definitions)
  refine all ?_ d found
  -- What a property of the first definition takes from is fed by it, and comes earlier in the order.
  intro first _ ih d found t property
  refine Schema.Ends.of_taken t fun second e takes found' => ?_
  have feeds : Feeds definitions first second := ⟨d,found,t,property,takes⟩
  exact ih second (Table.mem_names_of_get? found') (.single feeds) e found'

/-- Where no definition feeds itself in the end, every schema over the table has a type. -/
theorem flowType_ends (s : Schema) : s.Ends definitions ∧
    ∀ before, ∃ type after, (flowType definitions s).run before = some (type,after) := by
  have ends : s.Ends definitions := Schema.Ends.of_taken s fun _ _ _ found => properties_end acyclic found
  refine ⟨ends,fun before => ?_⟩
  obtain ⟨type,run⟩ := ends.run before
  exact ⟨type,_,run⟩

end Acyclic

/-- Definitions that refer to each other in circles, one that composes itself, and two steps of feeding. -/
def stableDefinitions : Table Schema := [
  ("Horse", {
    type := some "object"
    properties := [("rider", { ref := some "#/definitions/Rider" })] }),
  ("Rider", {
    type := some "object"
    properties := [("horses", {
      type := some "array", items := some { ref := some "#/definitions/Horse" } })] }),
  ("Animal", {
    allOf := [{ ref := some "#/definitions/Animal" }]
    properties := [("name", { type := some "string" })] }),
  ("Foal", {
    type := some "object"
    properties := [("mother", {
      allOf := [{ ref := some "#/definitions/Animal" }]
      properties := [("foal", { ref := some "#/definitions/Foal" })] })] }),
  ("Box", {
    type := some "object"
    properties := [("guests", { type := some "array", items := some {
      allOf := [{ ref := some "#/definitions/Foal" },
        { properties := [("keeper", { allOf := [{ ref := some "#/definitions/Rider" }] })] }] } })] })]

/-- A composition of the definition at the start of all feeding and of one that feeds nothing. -/
def stableSchema : Schema where
  allOf := [{ ref := some "#/definitions/Box" }, { ref := some "#/definitions/Horse" }]

theorem flowType_ends_stable :
    (∀ name, ¬ Relation.TransGen (Feeds stableDefinitions) name name) ∧
      stableSchema.Ends stableDefinitions ∧
      ∀ before, ∃ type after, (flowType stableDefinitions stableSchema).run before = some (type,after) := by
  have acyclic : ∀ name, ¬ Relation.TransGen (Feeds stableDefinitions) name name :=
    acyclic_of_rank (fun name => if name = "Box" then 0 else if name = "Foal" then 1 else 2)
      (by decide +kernel)
  exact ⟨acyclic,flowType_ends acyclic stableSchema⟩

end FlowClient
