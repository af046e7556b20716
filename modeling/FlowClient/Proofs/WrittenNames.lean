import FlowClient.Proofs.FilePlaces
import FlowClient.Proofs.Identifiers
import FlowClient.Proofs.PathEntries

/-! Names that modules are written with. Function names are no reserved words and aliases are always in order, but
whether all that a package declares and exports can be written without quotes hangs on the names that the
document gives. -/

namespace FlowClient

def Client.referred (c : Client) : List String :=
  c.requests.flatMap (·.typeImports) ++ c.declarations.flatMap (·.imports)

def Client.placeholders (c : Client) : List String :=
  c.requests.flatMap fun r => FlowClient.placeholders (segments r.path)

/-- What the modules of a client declare, its functions' parameters included, can be declared, and what the
index exports is an identifier. -/
structure Client.Writable (c : Client) : Prop where
  requests : ∀ r ∈ c.requests,
    ∀ name ∈ r.module.declared ++ r.module.function.params.map (·.name), Declarable name
  declarations : ∀ e ∈ c.declarations, ∀ name ∈ e.name :: e.imports, Declarable name
  index : ∀ name ∈ c.requests.map (·.name) ++ c.declarations.map (·.name), isIdentifier name = true

section Assembled

variable {e : Endpoint} {hostname : Option String} {types : Signature} {r : RequestFunction}
  (made : Assembled e hostname types r)

include made

theorem Assembled.declared_declarable_iff : (∀ name ∈ r.module.declared, Declarable name) ↔
    isIdentifier e.id = true ∧ ∀ name ∈ r.typeImports, Declarable name := by
  have runtime : ∀ name ∈ runtimeImports (!e.inputs.query.isEmpty) (!e.inputs.form.isEmpty),
      Declarable name := fun name member =>
    runtimeBindings_declarable name (runtimeImports_subset _ _ name member)
  rw [Module.declared,made.imported,made.aliases,made.name]
  simp only [List.forall_mem_append,List.forall_mem_singleton,localNames_declarable_iff,
    functionName_declarable_iff,responseAlias_declarable,and_true]
  exact ⟨fun ⟨⟨_,imports⟩,id⟩ => ⟨id,imports⟩,fun ⟨id,imports⟩ => ⟨⟨runtime,imports⟩,id⟩⟩

theorem Assembled.params_declarable_iff :
    (∀ name ∈ r.module.function.params.map (·.name), Declarable name) ↔
      ∀ name ∈ FlowClient.placeholders (segments e.path), PlainHead name := by
  have sound := bindings_bound e.inputs.path
  have fixed : ∀ hasQuery hasData : Bool, ∀ name ∈ (if hasQuery then ["query"] else []) ++
      (if hasData then ["data"] else []), Declarable name := by decide
  have bound : (∀ name ∈ (bindings e.inputs.path).map Prod.snd, Declarable name) ↔
      ∀ name ∈ (bindings e.inputs.path).map Prod.fst, PlainHead name := by
    rw [List.forall_mem_map,List.forall_mem_map]
    apply forall₂_congr
    intro pair member
    obtain ⟨count,same⟩ := sound.mended pair member
    rw [same]
    exact parameterIdentifier_declarable_iff pair.1 count
  rw [made.params,signature_params_names _ _ made.fits,List.append_assoc,List.forall_mem_append,
    and_iff_left (fixed _ _),bound,sound.names_eq]
  simp only [made.placeholders.mem_iff]

end Assembled

theorem request_writable_iff {e : Endpoint} {definitions : Table Schema} {hostname : Option String}
    {r : RequestFunction} (accepted : e.request definitions hostname = .ok r) :
    (∀ name ∈ r.module.declared ++ r.module.function.params.map (·.name), Declarable name) ↔
      isIdentifier r.name = true ∧ (∀ name ∈ r.typeImports, Declarable name) ∧
        ∀ name ∈ placeholders (segments r.path), PlainHead name := by
  obtain ⟨types,made⟩ := request_assembled e definitions hostname r accepted
  have same : r.name = e.id ∧ r.path = e.path := by
    obtain ⟨_,_,_,_,rfl⟩ := (request_ok_iff _ _ _ _).mp accepted
    exact ⟨rfl,rfl⟩
  rw [List.forall_mem_append,made.declared_declarable_iff,made.params_declarable_iff,same.1,same.2,
    and_assoc]

section Made

variable {d : Document} {o : Overrides} {all : List Endpoint} {c : Client} (made : d.Makes o all c)

include made

theorem functions_free : ∀ r ∈ c.requests, isReserved r.module.function.name = false ∧
    ∀ a ∈ r.module.aliases, Declarable a.name := by
  intro r member
  obtain ⟨e,_,accepted⟩ := mapM_ok_mem made.requests member
  obtain ⟨_,assembled⟩ := request_assembled e _ _ r accepted
  constructor
  · rw [assembled.name]
    exact isReserved_functionName e.id
  · have named : ∀ name ∈ r.module.aliases.map (·.name), Declarable name := by
      rw [assembled.aliases,List.forall_mem_singleton]
      exact responseAlias_declarable _
    exact fun a inside => named a.name (List.mem_map_of_mem inside)

theorem referred_defined (defines : d.Defines o.basePath) :
    ∀ name ∈ c.referred, name ∈ d.definitions.names := by
  intro name member
  rcases List.mem_append.mp member with requested | declared
  · obtain ⟨r,inside,imported⟩ := List.mem_flatMap.mp requested
    obtain ⟨e,endpoint,accepted⟩ := mapM_ok_mem made.requests inside
    exact request_imports accepted (defines.endpoints all made.endpoints e endpoint) imported
  · obtain ⟨declaration,inside,imported⟩ := List.mem_flatMap.mp declared
    exact declaration_imports made.declarations defines.definitions inside imported

theorem writable_iff : c.Writable ↔
    (∀ name ∈ d.definitions.names ++ c.referred, Declarable name) ∧
    (∀ id ∈ d.identifiers, isIdentifier id = true) ∧
    ∀ name ∈ c.placeholders, PlainHead name := by
  have each : ∀ r ∈ c.requests,
      ((∀ name ∈ r.module.declared ++ r.module.function.params.map (·.name), Declarable name) ↔
        isIdentifier r.name = true ∧ (∀ name ∈ r.typeImports, Declarable name) ∧
          ∀ name ∈ placeholders (segments r.path), PlainHead name) := by
    intro r member
    obtain ⟨e,_,accepted⟩ := mapM_ok_mem made.requests member
    exact request_writable_iff accepted
  rw [← declarations_names made.declarations,← requests_names made,Client.referred,Client.placeholders]
  simp only [List.forall_mem_append,List.forall_mem_map,List.forall_mem_flatMap]
  constructor
  · rintro ⟨requests,declarations,index⟩
    have written := fun r member => (each r member).mp (requests r member)
    refine ⟨⟨fun e member => declarations e member _ (List.mem_cons_self ..),
      fun r member => (written r member).2.1,fun e member name imported => ?_⟩,
      fun r member => (written r member).1,fun r member => (written r member).2.2⟩
    exact declarations e member name (List.mem_cons_of_mem _ imported)
  · rintro ⟨⟨declared,imports,siblings⟩,named,placed⟩
    refine ⟨fun r member => (each r member).mpr ⟨named r member,imports r member,placed r member⟩,?_,?_⟩
    · intro e member
      rw [List.forall_mem_cons]
      exact ⟨declared e member,siblings e member⟩
    · rw [List.forall_mem_append,List.forall_mem_map,List.forall_mem_map]
      exact ⟨named,fun e member => (declared e member).1⟩

end Made

/-- No function has a reserved name and every alias can be declared. All names of a package can be written
without quotes exactly where the names of its definitions, and those that are referred to, can be declared, its
operation identifiers are identifiers, and no placeholder starts with a foreign numeral; where references name
definitions, nothing else is referred to. -/
theorem names_writable_iff {d : Document} {o : Overrides} {c : Client} (accepted : d.client o = .ok c) :
    (∀ r ∈ c.requests, isReserved r.module.function.name = false ∧
      ∀ a ∈ r.module.aliases, Declarable a.name) ∧
    (d.Defines o.basePath → ∀ name ∈ c.referred, name ∈ d.definitions.names) ∧
    (c.Writable ↔
      (∀ name ∈ d.definitions.names ++ c.referred, Declarable name) ∧
      (∀ id ∈ d.identifiers, isIdentifier id = true) ∧
      ∀ name ∈ c.placeholders, PlainHead name) := by
  obtain ⟨all,made⟩ := client_made accepted
  exact ⟨functions_free made,referred_defined made,writable_iff made⟩

/-- A definition named like a runtime function and an operation named by a reserved word. -/
def wardsDocument : Document where
  info := { title := "Wards", version := "1" }
  paths := [("/wards/{ward-id}", .item {
    delete := some {
      operationId := some "delete"
      parameters := [.inline { name := "ward-id", location := .path, required := true }]
      responses := [("200", { schema := some { ref := some "#/definitions/makeQuery" } })] } })]
  definitions := [("makeQuery", { type := some "string" })]

theorem names_writable_wards : ∃ c, wardsDocument.client = .ok c ∧
    c.requests.map (·.module.declared) =
      [["AjaxObject", "AjaxPipe", "makeQuery_", "Response", "delete_"]] ∧ c.Writable := by
  have outcome : wardsDocument.client.toOption.map (fun c =>
      (c.requests.map (·.module.declared), c.referred, c.placeholders)) =
      some ([["AjaxObject", "AjaxPipe", "makeQuery_", "Response", "delete_"]], ["makeQuery"],
        ["ward-id"]) := by decide +kernel
  obtain ⟨c,found,parts⟩ := Option.map_eq_some_iff.mp outcome
  obtain ⟨declared,rest⟩ := Prod.mk.inj parts
  obtain ⟨referred,placed⟩ := Prod.mk.inj rest
  have accepted := toOption_eq_some.mp found
  refine ⟨c,accepted,declared,(names_writable_iff accepted).2.2.mpr ?_⟩
  rw [referred,placed]
  decide +kernel

def hyphenText : String :=
  "\x7b\"swagger\": \"2.0\", \"info\": \x7b\"title\": \"Hyphen\", \"version\": \"1\"\x7d, " ++
  "\"paths\": \x7b\"/pets\": \x7b\"get\": \x7b\"operationId\": \"list-pets\"\x7d\x7d\x7d\x7d"

/-- The document is accepted, and its function is named by no identifier. -/
theorem hyphen_function_unwritable : ∃ d c, Document.ofJsonText hyphenText = .ok d ∧ d.client = .ok c ∧
    ∃ r ∈ c.requests, r.module.function.name = "list-pets" ∧
      isIdentifier r.module.function.name = false ∧ ¬ c.Writable := by
  have outcome : ((Document.ofJsonText hyphenText).toOption.bind fun d => d.client.toOption.map fun c =>
      c.requests.map (·.module.function.name)) = some ["list-pets"] := by decide +kernel
  obtain ⟨d,read,outcome⟩ := Option.bind_eq_some_iff.mp outcome
  obtain ⟨c,made,names⟩ := Option.map_eq_some_iff.mp outcome
  obtain ⟨r,listed,name⟩ := List.map_eq_singleton_iff.mp names
  have member : r ∈ c.requests := by simp [listed]
  have hyphened : isIdentifier r.module.function.name = false := by
    rw [name]
    decide +kernel
  refine ⟨d,c,toOption_eq_some.mp read,toOption_eq_some.mp made,r,member,name,hyphened,?_⟩
  intro written
  have declared := written.requests r member r.module.function.name (by simp [Module.declared])
  rw [declared.1] at hyphened
  cases hyphened

end FlowClient
