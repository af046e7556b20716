import FlowClient.Proofs.Composition

/-! Types of arguments. A path argument and a body have the type of their own schema. The query and the form data
are objects, in which each name has one field: at its first place, with the type of its last argument's schema. -/

namespace FlowClient

/-- The type is that of the argument's own schema; without one it can be anything. -/
def Argument.Typed (definitions : Table Schema) (a : Argument) (type : FlowType) : Prop :=
  typeOrAny? definitions a.schema = some type

/-- The last of the arguments with this name is this one. -/
def LastNamed (arguments : List Argument) (name : String) (a : Argument) : Prop :=
  ∃ before after, arguments = before ++ a :: after ∧ a.name = name ∧ ∀ later ∈ after, later.name ≠ name

/-- The field is that of the arguments that have its name. -/
structure FieldOf (definitions : Table Schema) (arguments : List Argument) (field : Property FlowType) :
    Prop where
  typed : ∃ a, LastNamed arguments field.name a ∧ a.Typed definitions field.value
  optional : field.optional = true ↔ ∀ a ∈ arguments, a.name = field.name → a.required = false

/-- The exact object of the arguments, one field for each name at its first place. -/
def FlowType.RecordOf (definitions : Table Schema) (arguments : List Argument) (type : FlowType) : Prop :=
  ∃ fields, type = .exact fields ∧ fields.map (·.name) = (arguments.map (·.name)).eraseDups ∧
    ∀ field ∈ fields, FieldOf definitions arguments field

/-- One type for all the arguments, and none where there are no arguments. -/
def Recorded (definitions : Table Schema) (arguments : List Argument) (types : List FlowType) : Prop :=
  (arguments = [] ∧ types = []) ∨ (arguments ≠ [] ∧ ∃ type, types = [type] ∧ type.RecordOf definitions arguments)

/-- The types of an endpoint's parameters are those of what it takes: of its required path arguments one after
the other, of its query, and of its form data or else of its body. -/
def Endpoint.Takes (e : Endpoint) (definitions : Table Schema) (types : List FlowType) : Prop :=
  ∃ path query data, types = path ++ query ++ data ∧
    List.Forall₂ (·.Typed definitions) ((e.argumentsIn .path).filter (·.required)) path ∧
    Recorded definitions (e.argumentsIn .query) query ∧
    (e.argumentsIn .formData ≠ [] → Recorded definitions (e.argumentsIn .formData) data) ∧
    (e.argumentsIn .formData = [] → List.Forall₂ (·.Typed definitions) (e.argumentsIn .body).head?.toList data)

section Records

variable {definitions : Table Schema} {arguments : List Argument}

theorem lastNamed_of_lookup {name : String} {s : Schema}
    (found : (arguments.map fun a => (a.name,a.schema.getD {})).reverse.lookup name = some s) :
    ∃ a, LastNamed arguments name a ∧ a.schema.getD {} = s := by
  -- The entries are asked from the last to the first.
  obtain ⟨after,before,parts,apart⟩ := List.lookup_eq_some_iff.mp found
  rw [← List.map_reverse,List.map_eq_append_iff] at parts
  obtain ⟨later,rest,split,rfl,here⟩ := parts
  obtain ⟨a,earlier,rfl,same,rfl⟩ := List.map_eq_cons_iff.mp here
  obtain ⟨named,schema⟩ := Prod.mk.inj same
  refine ⟨a,⟨earlier.reverse,later.reverse,?_,named,?_⟩,schema⟩
  · rw [← List.reverse_reverse arguments,split]
    simp
  · intro b member equal
    have other := apart _ (List.mem_map_of_mem (List.mem_reverse.mp member))
    simp [equal] at other

theorem typeOf?_getD {schema : Option Schema} {type : FlowType}
    (typed : typeOf? definitions (schema.getD {}) = some type) : typeOrAny? definitions schema = some type := by
  cases schema with
  | some s => exact typed
  | none =>
    have kind : ({} : Schema).kind = .any := rfl
    rw [Option.getD_none,typeOf?_eq_typeFrom?,Schema.typeFrom?,kind] at typed
    exact typed

theorem argumentsSchema_record {type : FlowType} (filled : arguments ≠ [])
    (typed : typeOf? definitions (argumentsSchema arguments) = some type) :
    type.RecordOf definitions arguments := by
  have names : Table.names (argumentsSchema arguments).properties = (arguments.map (·.name)).eraseDups := by
    have listed : Table.names (arguments.map fun a => (a.name,a.schema.getD {})) =
        arguments.map (·.name) := by simp [Table.names,Function.comp_def]
    rw [← listed]
    exact Table.names_ofEntries _
  have properties : (argumentsSchema arguments).properties ≠ [] := by
    intro empty
    obtain ⟨a,rest,rfl⟩ := List.exists_cons_of_ne_nil filled
    rw [empty] at names
    simp [Table.names,List.eraseDups_cons] at names
  have kind : (argumentsSchema arguments).kind = .object := rfl
  rw [typeOf?_eq_typeFrom?,Schema.typeFrom?,kind] at typed
  dsimp only at typed
  rw [if_neg (by simpa using properties)] at typed
  obtain ⟨fields,rfl,each⟩ := exactType?_fields typed
  refine ⟨fields,rfl,?_,?_⟩
  · rw [← names]
    exact (map_eq_of_forall₂ (each.imp fun _ _ made => made.1.symm)).symm
  · intro field member
    obtain ⟨⟨name,s⟩,present,named,typed,optional⟩ := exists_partner each member
    obtain ⟨a,last,rfl⟩ := lastNamed_of_lookup ((Table.mem_ofEntries _ _ _).mp present)
    have required : name ∈ (argumentsSchema arguments).required ↔
        ∃ a ∈ arguments, a.name = name ∧ a.required = true := by
      simp [argumentsSchema,and_assoc,and_comm,and_left_comm]
    refine ⟨⟨a,named ▸ last,typeOf?_getD typed⟩,?_⟩
    rw [optional,named,Bool.not_eq_true',List.contains_eq_mem,decide_eq_false_iff_not,required]
    simp

theorem recorded_of_typed {types : List FlowType}
    (typed : (if arguments.isEmpty then [] else [some (argumentsSchema arguments)]).map
      (typeOrAny? definitions) = types.map some) : Recorded definitions arguments types := by
  cases arguments with
  | nil =>
    exact .inl ⟨rfl,List.map_eq_nil_iff.mp typed.symm⟩
  | cons a rest =>
    obtain ⟨type,rfl,found⟩ := List.map_eq_singleton_iff.mp typed.symm
    exact .inr ⟨List.cons_ne_nil _ _,type,rfl,argumentsSchema_record (List.cons_ne_nil _ _) found.symm⟩

end Records

section Signatures

variable {definitions : Table Schema}

/-- The types of a signature by the parts of the request. -/
structure Signature.Of (definitions : Table Schema) (i : Inputs) (s : Signature) : Prop where
  path : List.Forall₂ (·.Typed definitions) i.path s.path
  query : Recorded definitions i.query s.query.toList
  form : i.form ≠ [] → Recorded definitions i.form s.data.toList
  body : i.form = [] → List.Forall₂ (·.Typed definitions) i.body.toList s.data.toList

theorem typed_of_map_eq {arguments : List Argument} {types : List FlowType}
    (same : (arguments.map (·.schema)).map (typeOrAny? definitions) = types.map some) :
    List.Forall₂ (·.Typed definitions) arguments types := by
  rw [List.map_map] at same
  exact forall₂_of_map_eq same

theorem signature_of {i : Inputs} {response : Option Schema} {before after : List String}
    {s : Signature} (ok : (i.signature definitions response).run before = some (s,after)) :
    s.Of definitions i := by
  obtain ⟨typed,_⟩ := signature_typed definitions i response ok
  have fits := signature_fits i definitions response before s after ok
  have query : (if i.query.isEmpty then [] else [some (argumentsSchema i.query)]).length =
      s.query.toList.length := by
    rw [Option.length_toList,fits.query]
    cases i.query.isEmpty <;> rfl
  simp only [Inputs.parameterSchemas,Signature.parameterTypes,List.map_append] at typed
  obtain ⟨upper,data⟩ := List.append_inj typed (by
    simp only [List.length_append,List.length_map,fits.path,query])
  obtain ⟨path,queries⟩ := List.append_inj upper (by simp only [List.length_map,fits.path])
  refine ⟨typed_of_map_eq path,recorded_of_typed queries,fun form => ?_,fun form => typed_of_map_eq ?_⟩
  · apply recorded_of_typed
    simpa [Inputs.dataSchemas,form] using data
  · rw [← data,Inputs.dataSchemas,form,Option.toList_map]
    rfl

theorem Signature.Of.takes {e : Endpoint} {s : Signature} (typed : s.Of definitions e.inputs) :
    e.Takes definitions s.parameterTypes :=
  ⟨s.path,s.query.toList,s.data.toList,rfl,typed.path,typed.query,typed.form,typed.body⟩

end Signatures

end FlowClient
