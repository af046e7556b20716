import FlowClient.Proofs.Client

/-! Rejected documents. A document whose typing ends is rejected for the first of four causes, and what is
reported is the first place where that cause is met. -/

namespace FlowClient

def Endpoint.used (e : Endpoint) : List String := sortTexts (placeholders (segments e.path))

/-- The names of the required path parameters, sorted. -/
def Endpoint.provided (e : Endpoint) : List String :=
  sortTexts ((e.arguments.filter fun a => a.placement = .path ∧ a.required = true).map (·.name))

theorem provided_eq (e : Endpoint) : e.provided = sortTexts (e.inputs.path.map (·.name)) := by
  have same : (e.arguments.filter fun a => a.placement = .path ∧ a.required = true) = e.inputs.path := by
    rw [Endpoint.inputs,Endpoint.argumentsIn,List.filter_filter]
    congr
    funext a
    simp [Bool.and_comm]
  rw [Endpoint.provided,same]

def Endpoint.mismatch? (e : Endpoint) : Option ConversionError :=
  if e.used = e.provided then none else some (.placeholderMismatch e.id e.path e.used e.provided)

/-- Typing ends for every schema that is come to: for those of the definitions where there are endpoints and
no definition is reserved, and for those of an endpoint where neither it nor one before it is refused. -/
structure Document.TypingEnds (d : Document) (basePath : Option String) : Prop where
  definitions : ∀ all, d.endpoints basePath = .ok all → requestType ∉ d.definitions.names →
    ∀ entry ∈ d.definitions, entry.2.Ends d.definitions
  endpoints : ∀ before e after, d.endpoints basePath = .ok (before ++ e :: after) →
    requestType ∉ d.definitions.names → (∀ other ∈ before, other.used = other.provided) →
    e.used = e.provided → ∀ s ∈ e.schemas, s.Ends d.definitions

/-- The document is rejected for this reason: each cause stands only where those before it do not. -/
inductive Document.Rejects (d : Document) (basePath : Option String) : ConversionError → Prop
  | reference {before after : List String} {ref : String} {why : ConversionError}
    (listed : d.references = before ++ ref :: after)
    (earlier : ∀ r ∈ before, Resolves d.parameters r) (dangles : Dangles d.parameters ref why) :
    d.Rejects basePath why
  | identifiers {twice : List String} (resolved : ∀ ref ∈ d.references, Resolves d.parameters ref)
    (some : twice ≠ []) (exactly : ∀ id, id ∈ twice ↔ 1 < d.identifiers.count id)
    (order : twice.Pairwise fun a b => d.identifiers.idxOf a < d.identifiers.idxOf b) :
    d.Rejects basePath (.duplicateIdentifiers twice)
  | reserved (resolved : ∀ ref ∈ d.references, Resolves d.parameters ref)
    (distinct : d.identifiers.Nodup) (defined : requestType ∈ d.definitions.names) :
    d.Rejects basePath (.reservedDefinition requestType)
  | placeholders {before after : List Endpoint} {e : Endpoint}
    (found : d.endpoints basePath = .ok (before ++ e :: after))
    (free : requestType ∉ d.definitions.names) (earlier : ∀ other ∈ before, other.used = other.provided)
    (differ : e.used ≠ e.provided) :
    d.Rejects basePath (.placeholderMismatch e.id e.path e.used e.provided)

theorem mismatch?_eq_none {e : Endpoint} : e.mismatch? = none ↔ e.used = e.provided := by
  simp [Endpoint.mismatch?]

theorem findSome?_mismatch {all : List Endpoint} {why : ConversionError} :
    all.findSome? Endpoint.mismatch? = some why ↔ ∃ before e after, all = before ++ e :: after ∧
      (∀ other ∈ before, other.used = other.provided) ∧ e.used ≠ e.provided ∧
      why = .placeholderMismatch e.id e.path e.used e.provided := by
  have some (e : Endpoint) : e.mismatch? = some why ↔ e.used ≠ e.provided ∧
      why = .placeholderMismatch e.id e.path e.used e.provided := by
    simp [Endpoint.mismatch?,eq_comm]
  rw [List.findSome?_eq_some_iff]
  simp only [mismatch?_eq_none,some]
  constructor
  · rintro ⟨before,e,after,listed,differ,earlier⟩
    exact ⟨before,e,after,listed,earlier,differ⟩
  · rintro ⟨before,e,after,listed,earlier,differ⟩
    exact ⟨before,e,after,listed,differ,earlier⟩

/-- For what is found first it is enough to agree at each place that the search comes to. -/
theorem findSome?_congr_first {ι α : Type} {f g : ι → Option α} {items : List ι}
    (same : ∀ before item after, items = before ++ item :: after →
      (∀ other ∈ before, g other = none) → f item = g item) :
    items.findSome? f = items.findSome? g := by
  induction items with
  | nil => rfl
  | cons item items ih =>
    rw [List.findSome?_cons,List.findSome?_cons,same [] item items rfl (by simp)]
    cases here : g item with
    | some a => rfl
    | none =>
      apply ih
      rintro before other after rfl earlier
      exact same (item :: before) other after rfl (List.forall_mem_cons.mpr ⟨here,earlier⟩)

theorem typeOrAny?_isSome {definitions : Table Schema} {schema : Option Schema}
    (ends : ∀ s, schema = some s → s.Ends definitions) :
    (typeOrAny? definitions schema).isSome = true := by
  cases schema with
  | none => rfl
  | some s => exact (typeOf?_isSome_iff definitions s).mpr (ends s rfl)

/-- Where its typing ends, an endpoint fails by its placeholders alone. -/
theorem request_fault? (e : Endpoint) (definitions : Table Schema) (hostname : Option String)
    (ends : e.used = e.provided → ∀ s ∈ e.schemas, s.Ends definitions) :
    fault? (e.request definitions hostname) = e.mismatch? := by
  unfold Endpoint.mismatch?
  by_cases same : e.used = e.provided
  · rw [if_pos same,fault?_eq_none]
    apply request_accepted
    · rw [provided_eq] at same
      exact (sortTexts_eq_iff _ _).mp same
    · apply signature_found
      intro schema member
      apply typeOrAny?_isSome
      rintro s rfl
      exact ends same s (mem_schemas.mpr member)
  · rw [if_neg same,fault?_eq_some]
    have failed : checkPlaceholders e (segments e.path) e.inputs.path =
        .error (.placeholderMismatch e.id e.path e.used e.provided) := by
      rw [provided_eq] at same ⊢
      exact if_neg same
    unfold Endpoint.request
    rw [failed]
    rfl

section Client

variable {d : Document} {o : Overrides}

theorem client_mismatch {all : List Endpoint} {declared : List Declaration}
    (ends : d.TypingEnds o.basePath) (found : d.endpoints o.basePath = .ok all)
    (free : requestType ∉ d.definitions.names)
    (declares : declarations d.definitions = .ok declared) :
    fault? (d.client o) = all.findSome? Endpoint.mismatch? := by
  rw [client_fault? found declares]
  apply findSome?_congr_first
  rintro before e after rfl earlier
  apply request_fault?
  exact ends.endpoints before e after found free fun other member =>
    mismatch?_eq_none.mp (earlier other member)

end Client

/-- A document whose typing ends has no client exactly where one of the four causes stands, and the one that
stands is what is reported. -/
theorem client_error_iff (d : Document) (o : Overrides) (ends : d.TypingEnds o.basePath)
    (why : ConversionError) : d.client o = .error why ↔ d.Rejects o.basePath why := by
  constructor
  · intro rejected
    cases found : d.endpoints o.basePath with
    | error first =>
      rw [client_of_endpoints found] at rejected
      cases rejected
      rcases (endpoints_error_iff d o.basePath why).mp found with
        ⟨before,ref,after,listed,earlier,dangles⟩ | ⟨resolved,often,rfl⟩
      · exact .reference listed earlier dangles
      · refine .identifiers resolved ?_ (fun _ => mem_repeated) (repeated_order _)
        exact fun none => often (repeated_eq_nil.mp none)
    | ok all =>
      obtain ⟨resolved,distinct⟩ := (endpoints_found_iff d o.basePath).mp ⟨all,found⟩
      by_cases defined : requestType ∈ d.definitions.names
      · rw [client_of_declarations found (declarations_reserved _ defined)] at rejected
        cases rejected
        exact .reserved resolved distinct defined
      · obtain ⟨declared,declares⟩ :=
          declarations_found_iff.mpr ⟨defined,ends.definitions all found defined⟩
        rw [← fault?_eq_some,client_mismatch ends found defined declares,findSome?_mismatch] at rejected
        obtain ⟨before,e,after,rfl,earlier,differ,rfl⟩ := rejected
        exact .placeholders found defined earlier differ
  · intro rejects
    cases rejects with
    | reference listed earlier dangles =>
      exact client_of_endpoints ((endpoints_error_iff d o.basePath why).mpr
        (.inl ⟨_,_,_,listed,earlier,dangles⟩))
    | identifiers resolved some exactly order =>
      cases eq_repeated exactly order
      refine client_of_endpoints ((endpoints_error_iff d o.basePath _).mpr (.inr ⟨resolved,?_,rfl⟩))
      exact fun distinct => some (repeated_eq_nil.mpr distinct)
    | reserved resolved distinct defined =>
      obtain ⟨all,found⟩ := (endpoints_found_iff d o.basePath).mpr ⟨resolved,distinct⟩
      exact client_of_declarations found (declarations_reserved _ defined)
    | placeholders found free earlier differ =>
      obtain ⟨declared,declares⟩ := declarations_found_iff.mpr ⟨free,ends.definitions _ found free⟩
      rw [← fault?_eq_some,client_mismatch ends found free declares,findSome?_mismatch]
      exact ⟨_,_,_,rfl,earlier,differ,rfl⟩

/-- Two of the paths have a placeholder that no required parameter fills. -/
def unfilledDocument : Document where
  info := { title := "Pets", version := "1" }
  definitions := [("Pet", { type := some "string" })]
  paths := [
    ("/pets", .item {
      get := some {
        operationId := some "listPets"
        responses := [("200", { schema := some { ref := some "#/definitions/Pet" } })] } }),
    ("/stores/\x7bstore\x7d/pets/\x7bpet\x7d/\x7btag\x7d", .item {
      parameters := [.inline { name := "store", required := true, type := some "integer" }]
      get := some {
        operationId := some "showPet"
        parameters := [.inline { name := "pet", required := true, type := some "string" },
          .inline { name := "tag", type := some "string" },
          .inline { name := "day", location := .query, required := true }] } }),
    ("/toys/\x7btoy\x7d", .item { get := some { operationId := some "showToy" } })]

theorem unfilledDocument_ends : unfilledDocument.TypingEnds none := by
  constructor
  · intro _ _ _ entry member
    have all : ∀ entry ∈ unfilledDocument.definitions,
        (typeOf? unfilledDocument.definitions entry.2).isSome = true := by decide +kernel
    exact (typeOf?_isSome_iff _ _).mp (all entry member)
  · intro before e after found _ _ _ s member
    have all : ∀ e ∈ (unfilledDocument.endpoints none).toOption.getD [], ∀ s ∈ e.schemas,
        (typeOf? unfilledDocument.definitions s).isSome = true := by decide +kernel
    rw [found] at all
    have listed : e ∈ before ++ e :: after := by simp
    exact (typeOf?_isSome_iff _ _).mp (all e listed s member)

/-- The optional parameter and that of the query fill no placeholder. -/
def unfilledEndpoint : Endpoint where
  method := .get
  path := "/stores/\x7bstore\x7d/pets/\x7bpet\x7d/\x7btag\x7d"
  id := "showPet"
  arguments := [⟨"pet",.path,true,some { type := some "string" },none⟩,
    ⟨"tag",.path,false,some { type := some "string" },none⟩,⟨"day",.query,true,none,none⟩,
    ⟨"store",.path,true,some { type := some "integer" },none⟩]
  responseSchema := none
  summary := none
  description := none

def unfilledError : ConversionError :=
  .placeholderMismatch "showPet" "/stores/\x7bstore\x7d/pets/\x7bpet\x7d/\x7btag\x7d"
    ["pet","store","tag"] ["pet","store"]

theorem client_error_iff_unfilled : unfilledDocument.TypingEnds none ∧
    unfilledDocument.client = .error unfilledError ∧ unfilledDocument.Rejects none unfilledError := by
  have found : unfilledDocument.endpoints none = .ok ([_] ++ unfilledEndpoint :: [_]) := rfl
  have used : unfilledEndpoint.used = ["pet","store","tag"] :=
    sortTexts_of_perm (by decide) (by decide +kernel)
  have provided : unfilledEndpoint.provided = ["pet","store"] :=
    sortTexts_of_perm (by decide) (by decide +kernel)
  have differ : unfilledEndpoint.used ≠ unfilledEndpoint.provided := by
    rw [used,provided]
    decide
  have rejected := Document.Rejects.placeholders found (by decide) (List.forall_mem_singleton.mpr rfl) differ
  rw [used,provided] at rejected
  exact ⟨unfilledDocument_ends,
    (client_error_iff unfilledDocument {} unfilledDocument_ends unfilledError).mpr rejected,rejected⟩

end FlowClient
