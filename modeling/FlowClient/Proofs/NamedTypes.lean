import FlowClient.Proofs.Declarations
import FlowClient.Proofs.TypeImports

/-! Named types. Each name in a type comes from a reference that typing its schema meets, so where all these
references name definitions, nothing but definitions is imported. -/

namespace FlowClient

/-- Each reference that typing the schema meets names a definition. -/
def Schema.Defined (definitions : Table Schema) (s : Schema) : Prop :=
  ∀ t, s.Meets definitions t → ∀ name, t.kind = .reference name → name ∈ definitions.names

/-- It is enough that all references in the schema and in the table name definitions. -/
theorem Schema.defined_of_over {definitions : Table Schema} {s : Schema}
    (each : ∀ t ∈ schemasOver definitions s, ∀ name ∈ t.definitionName?, name ∈ definitions.names) :
    s.Defined definitions := fun t meets name kind =>
  each t (meets_over meets) name (kind_reference kind)

section Names

variable {definitions : Table Schema}

theorem exactType?_names {inner : Schema → Option FlowType} {properties : Table Schema}
    {required : List String} {type : FlowType}
    (typed : exactType? inner properties required = some type) {name : String}
    (member : name ∈ type.names) :
    ∃ t ∈ properties.map Prod.snd, ∃ part, inner t = some part ∧ name ∈ part.names := by
  obtain ⟨fields,found,rfl⟩ := Option.map_eq_some_iff.mp typed
  rw [FlowType.names,namesProperties_eq,List.mem_flatMap] at member
  obtain ⟨field,inside,named⟩ := member
  obtain ⟨entry,present,made⟩ := exists_of_map_eq (mapM_eq_some found) inside
  obtain ⟨part,here,rfl⟩ := Option.map_eq_some_iff.mp made
  exact ⟨entry.2,List.mem_map_of_mem present,part,here,named⟩

/-- A name in the type of a schema is the schema's own reference, or in the type of a next one. -/
theorem typeFrom?_names {inner : Schema → Option FlowType} {s : Schema} {type : FlowType}
    (typed : s.typeFrom? definitions inner = some type) {name : String} (member : name ∈ type.names) :
    s.kind = .reference name ∨
      ∃ t ∈ s.next definitions, ∃ part, inner t = some part ∧ name ∈ part.names := by
  cases kind : s.kind with
  | reference own =>
    simp only [Schema.typeFrom?,kind,Option.some.injEq] at typed
    subst typed
    exact .inl (by rw [List.mem_singleton.mp member])
  | composite parts =>
    simp only [Schema.typeFrom?,Schema.next,kind] at typed ⊢
    exact .inr (exactType?_names typed member)
  | object =>
    simp only [Schema.typeFrom?,Schema.next,kind] at typed ⊢
    split at typed
    · obtain rfl := Option.some.inj typed
      cases member
    · exact .inr (exactType?_names typed member)
  | array items =>
    simp only [Schema.typeFrom?,Schema.next,kind] at typed ⊢
    obtain ⟨element,found,rfl⟩ := Option.map_eq_some_iff.mp typed
    cases items with
    | none =>
      obtain rfl := Option.some.inj found
      cases member
    | some t => exact .inr ⟨t,by simp,element,found,member⟩
  | string values =>
    simp only [Schema.typeFrom?,kind,Option.some.injEq] at typed
    subst typed
    rw [stringType_names] at member
    cases member
  | number | boolean | any =>
    simp only [Schema.typeFrom?,kind,Option.some.injEq] at typed
    subst typed
    cases member

theorem typeWithin?_names {levels : Nat} {s : Schema} {type : FlowType}
    (typed : typeWithin? definitions levels s = some type) {name : String}
    (member : name ∈ type.names) : ∃ t, s.Meets definitions t ∧ t.kind = .reference name := by
  induction levels generalizing s type with
  | zero => cases typed
  | succ levels ih =>
    rw [typeWithin?_succ] at typed
    rcases typeFrom?_names typed member with own | ⟨t,next,part,found,inside⟩
    · exact ⟨s,.refl,own⟩
    · obtain ⟨u,meets,kind⟩ := ih found inside
      exact ⟨u,meets.head next,kind⟩

theorem Schema.Defined.names {s : Schema} (defined : s.Defined definitions) {type : FlowType}
    (typed : typeOf? definitions s = some type) {name : String} (member : name ∈ type.names) :
    name ∈ definitions.names := by
  obtain ⟨t,meets,kind⟩ := typeWithin?_names typed member
  exact defined t meets name kind

end Names

theorem mem_importNames {names : List String} {own : Option String} {name : String}
    (member : name ∈ importNames names own) : name ∈ names :=
  List.mem_of_mem_filter (List.mem_eraseDups.mp member)

theorem declaration_imports {definitions : Table Schema} {all : List Declaration}
    (made : declarations definitions = .ok all)
    (defined : ∀ entry ∈ definitions, entry.2.Defined definitions) {d : Declaration} (member : d ∈ all)
    {name : String} (imported : name ∈ d.imports) : name ∈ definitions.names := by
  obtain ⟨entry,present,declared⟩ := exists_of_map_eq (declarations_ok made).2 member
  obtain ⟨type,typed,rfl⟩ := Option.map_eq_some_iff.mp ((declare?_eq _ _ _).symm.trans declared)
  exact (defined entry present).names typed (mem_importNames imported)

theorem request_imports {e : Endpoint} {definitions : Table Schema} {hostname : Option String}
    {r : RequestFunction} (accepted : e.request definitions hostname = .ok r)
    (defined : ∀ s ∈ e.schemas, s.Defined definitions) {name : String}
    (imported : name ∈ r.typeImports) : name ∈ definitions.names := by
  obtain ⟨types,names,sourced,_,parameters,response⟩ := request_sourced e definitions hostname r accepted
  rw [sourced.mem_imports,sourced.noted] at imported
  obtain ⟨type,member,named⟩ := List.mem_flatMap.mp imported
  have typed : (e.inputs.parameterSchemas ++ [e.responseSchema]).map (typeOrAny? definitions) =
      types.types.map some := by
    rw [List.map_append,List.map_singleton,parameters,response,Signature.types,List.map_append,
      List.map_singleton]
  obtain ⟨schema,present,found⟩ := exists_of_map_eq typed member
  cases schema with
  | none =>
    obtain rfl := Option.some.inj found
    cases named
  | some s => exact (defined s (mem_schemas.mpr present)).names found named

end FlowClient
