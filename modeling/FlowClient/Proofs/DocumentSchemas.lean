import FlowClient.Proofs.EndpointPlaces
import FlowClient.Proofs.Signature

/-! Schemas of a document. What the types of its functions come from is written there, but for the schemas made of
parameters that are described in place and for the objects of several parameters, which are no compositions. -/

namespace FlowClient

def Parameter.schemas (p : Parameter) : List Schema := p.schema.toList ++ p.items.toList

def ParameterEntry.schemas : ParameterEntry → List Schema
  | .reference _ => []
  | .inline p => p.schemas

def Operation.schemas (op : Operation) : List Schema :=
  op.parameters.flatMap (·.schemas) ++ op.responses.flatMap (·.2.schema.toList)

def PathItem.schemas (item : PathItem) : List Schema :=
  item.parameters.flatMap (·.schemas) ++ item.operations.flatMap (·.2.schemas)

def PathEntry.schemas (entry : PathEntry) : List Schema := entry.item?.toList.flatMap (·.schemas)

/-- The schemas of a document. Further ones are inside them. -/
def Document.schemas (d : Document) : List Schema :=
  d.definitions.map Prod.snd ++ d.parameters.flatMap (·.2.schemas) ++ d.paths.flatMap (·.2.schemas)

/-- A part of a composition, in the schema or anywhere inside it, refers to the definition. -/
def Schema.Composes (name : String) (s : Schema) : Prop :=
  ∃ t ∈ s :: s.inside, ∃ part ∈ t.allOf, part.definitionName? = some name

instance (name : String) (s : Schema) : Decidable (s.Composes name) :=
  inferInstanceAs (Decidable (∃ t ∈ s :: s.inside, ∃ part ∈ t.allOf, part.definitionName? = some name))

def Document.Composes (d : Document) (name : String) : Prop :=
  ∃ s ∈ d.schemas, s.Composes name

instance (d : Document) (name : String) : Decidable (d.Composes name) :=
  inferInstanceAs (Decidable (∃ s ∈ d.schemas, s.Composes name))

section Inside

theorem Schema.Composes.inside {name : String} {s t : Schema} (inner : t ∈ s.inside)
    (composes : t.Composes name) : s.Composes name := by
  obtain ⟨u,below,part⟩ := composes
  exact ⟨u,List.mem_cons_of_mem _ (Schema.inside_below inner below),part⟩

theorem Schema.Composes.below {name : String} {s : Schema} (plain : s.allOf = [])
    (composes : s.Composes name) :
    (∃ entry ∈ s.properties, entry.2.Composes name) ∨ ∃ t, s.items = some t ∧ t.Composes name := by
  obtain ⟨t,below,part,member,refers⟩ := composes
  rcases List.mem_cons.mp below with rfl | below
  · rw [plain] at member
    cases member
  · rw [Schema.inside_eq,plain,List.mem_append,List.mem_append] at below
    rcases below with (property | item) | none
    · rw [insideMembers_eq] at property
      obtain ⟨entry,present,inner⟩ := List.mem_flatMap.mp property
      exact .inl ⟨entry,present,t,inner,part,member,refers⟩
    · cases items : s.items with
      | none =>
        rw [items] at item
        cases item
      | some element =>
        rw [items] at item
        exact .inr ⟨element,rfl,t,item,part,member,refers⟩
    · cases none

end Inside

section Arguments

variable {name : String}

theorem valueSchema?_composes {p : Parameter} {s : Schema} (given : p.valueSchema? = some s)
    (composes : s.Composes name) : ∃ t ∈ p.schemas, t.Composes name := by
  unfold Parameter.valueSchema? at given
  split at given
  · rename_i own found
    cases given
    exact ⟨s,by simp [Parameter.schemas,found],composes⟩
  -- A schema made of the parameter's own fields composes nothing but what its items do.
  · obtain ⟨type,_,rfl⟩ := Option.map_eq_some_iff.mp given
    rcases composes.below rfl with ⟨entry,none,_⟩ | ⟨t,items,inner⟩
    · cases none
    · exact ⟨t,by simp [Parameter.schemas,show p.items = some t from items],inner⟩

theorem argumentsSchema_composes {arguments : List Argument}
    (composes : (argumentsSchema arguments).Composes name) :
    ∃ a ∈ arguments, ∃ s, a.schema = some s ∧ s.Composes name := by
  rcases composes.below rfl with ⟨entry,present,inner⟩ | ⟨t,none,_⟩
  · obtain ⟨a,member,rfl⟩ := List.mem_map.mp (Table.mem_of_ofEntries present)
    cases given : a.schema with
    | some s => exact ⟨a,member,s,given,by simpa [given] using inner⟩
    | none =>
      rw [given] at inner
      rcases inner.below rfl with ⟨_,none,_⟩ | ⟨_,none,_⟩ <;> cases none
  · cases none

theorem mem_addArgument {arguments : List Argument} {a b : Argument}
    (member : b ∈ addArgument arguments a) : b ∈ arguments ∨ b = a := by
  unfold addArgument at member
  split at member
  · exact .inl member
  · simpa using member

theorem mem_mergeArguments {own shared : List Argument} {a : Argument}
    (member : a ∈ mergeArguments own shared) : a ∈ own ∨ a ∈ shared := by
  unfold mergeArguments at member
  induction shared generalizing own with
  | nil => exact .inl member
  | cons first shared ih =>
    rcases ih member with added | later
    · rcases mem_addArgument added with given | rfl
      · exact .inl given
      · exact .inr (by simp)
    · exact .inr (by simp [later])

theorem argumentsOf_composes {shared : Table Parameter} {entries : List ParameterEntry}
    {arguments : List Argument} (of : ArgumentsOf shared entries arguments) {a : Argument}
    (member : a ∈ arguments) {s : Schema} (given : a.schema = some s) (composes : s.Composes name) :
    (∃ entry ∈ entries, ∃ t ∈ entry.schemas, t.Composes name) ∨
      ∃ entry ∈ shared, ∃ t ∈ entry.2.schemas, t.Composes name := by
  obtain ⟨parameters,stands,rfl⟩ := of
  obtain ⟨p,present,made⟩ := List.mem_filterMap.mp member
  obtain ⟨placement,_,rfl⟩ := Option.map_eq_some_iff.mp made
  obtain ⟨t,own,inner⟩ := valueSchema?_composes given composes
  obtain ⟨entry,listed,stands⟩ := exists_partner stands present
  cases stands with
  | inline => exact .inl ⟨_,listed,t,own,inner⟩
  | reference key _ found => exact .inr ⟨(key,p),Table.mem_of_get? found,t,own,inner⟩

theorem endpoint_schemas {e : Endpoint} {s : Schema} (member : s ∈ e.schemas)
    (composes : s.Composes name) : (∃ a ∈ e.arguments, ∃ t, a.schema = some t ∧ t.Composes name) ∨
      e.responseSchema = some s := by
  have here {placement : Placement} {a : Argument} (member : a ∈ e.argumentsIn placement) :
      a ∈ e.arguments := List.mem_of_mem_filter member
  -- The object of several arguments has their schemas for its properties.
  have several {placement : Placement} (same : s = argumentsSchema (e.argumentsIn placement)) :
      ∃ a ∈ e.arguments, ∃ t, a.schema = some t ∧ t.Composes name := by
    obtain ⟨a,member,inner⟩ := argumentsSchema_composes (same ▸ composes)
    exact ⟨a,here member,inner⟩
  simp only [mem_schemas,Inputs.parameterSchemas,List.mem_append,List.mem_singleton] at member
  rcases member with ((path | query) | data) | response
  · obtain ⟨a,member,given⟩ := List.mem_map.mp path
    exact .inl ⟨a,here (List.mem_of_mem_filter member),s,given,composes⟩
  · split at query
    · cases query
    · exact .inl (several (Option.some.inj (List.mem_singleton.mp query)))
  · unfold Inputs.dataSchemas at data
    split at data
    · exact .inl (several (Option.some.inj (List.mem_singleton.mp data)))
    · obtain ⟨a,body,given⟩ := Option.map_eq_some_iff.mp (Option.mem_toList.mp data)
      exact .inl ⟨a,here (List.mem_of_head? body),s,given,composes⟩
  · exact .inr response.symm

end Arguments

section Endpoints

variable {d : Document} {name : String}

theorem offered_composes {p : Place} (offers : d.Offers p) {s : Schema}
    (written : s ∈ p.item.parameters.flatMap (·.schemas) ∨ s ∈ p.operation.schemas)
    (composes : s.Composes name) : d.Composes name := by
  have inItem : s ∈ p.item.schemas := by
    rw [PathItem.schemas,List.mem_append]
    refine written.imp_right fun inside => ?_
    exact List.mem_flatMap.mpr ⟨(p.method,p.operation),mem_operations.mpr offers.declared,inside⟩
  refine ⟨s,List.mem_append.mpr (.inr (List.mem_flatMap.mpr ⟨_,offers.entry,?_⟩)),composes⟩
  simpa [PathEntry.schemas,PathEntry.item?] using inItem

theorem schemaOf_mem {op : Operation} {code : String} {s : Schema} (given : op.schemaOf code = some s) :
    s ∈ op.schemas := by
  obtain ⟨response,found,schema⟩ := Option.bind_eq_some_iff.mp given
  refine List.mem_append.mpr (.inr (List.mem_flatMap.mpr ⟨_,Table.mem_of_get? found,?_⟩))
  exact Option.mem_toList.mpr schema

theorem endpoint_composes {given : Option String} {all : List Endpoint}
    (made : d.endpoints given = .ok all) {e : Endpoint} (endpoint : e ∈ all) {s : Schema}
    (member : s ∈ e.schemas) (composes : s.Composes name) : d.Composes name := by
  obtain ⟨p,listed,describes⟩ := exists_partner (endpoints_described made) endpoint
  have offers := mem_places.mp listed
  have shared : (∃ entry ∈ d.parameters, ∃ t ∈ entry.2.schemas, t.Composes name) →
      d.Composes name := by
    rintro ⟨entry,present,t,own,inner⟩
    have written : t ∈ d.parameters.flatMap (·.2.schemas) := List.mem_flatMap.mpr ⟨entry,present,own⟩
    exact ⟨t,by simp [Document.schemas,written],inner⟩
  have inline {entries : List ParameterEntry}
      (held : ∀ t ∈ entries.flatMap (·.schemas),
        t ∈ p.item.parameters.flatMap (·.schemas) ∨ t ∈ p.operation.schemas) :
      (∃ entry ∈ entries, ∃ t ∈ entry.schemas, t.Composes name) → d.Composes name := by
    rintro ⟨entry,present,t,own,inner⟩
    exact offered_composes offers (held t (List.mem_flatMap.mpr ⟨entry,present,own⟩)) inner
  rcases endpoint_schemas member composes with ⟨a,argument,t,given,inner⟩ | response
  · obtain ⟨own,common,ofOwn,ofCommon,merged⟩ := describes.arguments
    rw [merged] at argument
    rcases mem_mergeArguments argument with present | present
    · exact (argumentsOf_composes ofOwn present given inner).elim
        (inline fun _ held => .inr (List.mem_append.mpr (.inl held))) shared
    · exact (argumentsOf_composes ofCommon present given inner).elim (inline fun _ => .inl) shared
  · rw [describes.response,Option.or_eq_some_iff] at response
    rcases response with first | ⟨_,second⟩
    · exact offered_composes offers (.inr (schemaOf_mem first)) composes
    · exact offered_composes offers (.inr (schemaOf_mem second)) composes

end Endpoints

end FlowClient
