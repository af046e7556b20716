import FlowClient.Proofs.Client
import FlowClient.Proofs.DocumentSchemas

/-! References are opaque. A definition that no composition has for a part is nothing but a name to all other
schemas, so another schema under that name changes its own declaration only. -/

namespace FlowClient

/-- The same names in the same order, and the same schemas under all of them but one. -/
def RedefinesAt (name : String) (definitions other : Table Schema) : Prop :=
  List.Forall₂ (fun a b => a.1 = b.1 ∧ (a.1 ≠ name → a.2 = b.2)) definitions other

/-- The documents differ in the schema under one name at most. -/
structure Document.Redefines (d : Document) (name : String) (other : Document) : Prop where
  definitions : RedefinesAt name d.definitions other.definitions
  rest : other = { d with definitions := other.definitions }

/-- The clients differ in the declaration of one name at most. -/
structure Client.SameBut (name : String) (c other : Client) : Prop where
  info : c.info = other.info
  hostname : c.hostname = other.hostname
  declarations : List.Forall₂ (fun a b : Declaration => a.name = b.name ∧ (a.name ≠ name → a = b))
    c.declarations other.declarations
  requests : c.requests = other.requests
  warnings : c.warnings = other.warnings

/-- Both fail for one reason, or both give clients that differ in one declaration at most. -/
inductive SameBut (name : String) :
    Except ConversionError Client → Except ConversionError Client → Prop
  | failed (why : ConversionError) : SameBut name (.error why) (.error why)
  | made {c other : Client} (same : c.SameBut name other) : SameBut name (.ok c) (.ok other)

section Types

variable {name : String} {definitions other : Table Schema}
  (redefines : RedefinesAt name definitions other)

include redefines

theorem RedefinesAt.names : definitions.names = other.names := by
  induction redefines with
  | nil => rfl
  | cons here _ ih =>
    simp only [Table.names,List.map_cons,here.1] at ih ⊢
    rw [ih]

theorem RedefinesAt.get? {key : String} (apart : key ≠ name) :
    definitions.get? key = other.get? key := by
  induction redefines with
  | nil => rfl
  | cons here _ ih =>
    rename_i a b _ _ _
    obtain ⟨n,s⟩ := a
    obtain ⟨m,t⟩ := b
    obtain ⟨rfl,same⟩ := here
    simp only [Table.get?,List.lookup_cons] at ih ⊢
    by_cases found : key = n
    · simp only [found,beq_self_eq_true]
      exact congrArg some (same (found ▸ apart))
    · rw [beq_eq_false_iff_ne.mpr found]
      exact ih

theorem sources_redefined {s : Schema} (free : ¬ s.Composes name) :
    sources definitions s s.allOf = sources other s s.allOf := by
  have each : ∀ part ∈ s.allOf, sourceOf? definitions part = sourceOf? other part := by
    intro part member
    unfold sourceOf?
    cases refers : part.definitionName? with
    | none => rfl
    | some key =>
      apply redefines.get?
      rintro rfl
      exact free ⟨s,by simp,part,member,refers⟩
  rw [sources,sources,List.filterMap_congr each]

theorem typeFrom?_redefined (inner : Schema → Option FlowType) {s : Schema}
    (free : ¬ s.Composes name) : s.typeFrom? definitions inner = s.typeFrom? other inner := by
  unfold Schema.typeFrom?
  cases kind : s.kind with
  | composite parts =>
    rw [kind_composite kind]
    simp only [sources_redefined redefines free]
  | reference | object | array | string | number | boolean | any => rfl

variable (apart : ∀ entry ∈ definitions, ¬ entry.2.Composes name)

omit redefines in
include apart in
theorem next_free {s t : Schema} (free : ¬ s.Composes name) (next : t ∈ s.next definitions) :
    ¬ t.Composes name := by
  intro composes
  -- What typing goes on to is inside the schema itself or inside a definition.
  rcases mem_schemasOver.mp (next_over (mem_schemasOver.mpr (.inl (.inl rfl))) next) with
    (rfl | inner) | ⟨entry,member,below⟩
  · exact free composes
  · exact free (composes.inside inner)
  · rcases below with rfl | inner
    · exact apart entry member composes
    · exact apart entry member (composes.inside inner)

include apart

theorem typeWithin?_redefined (levels : Nat) {s : Schema} (free : ¬ s.Composes name) :
    typeWithin? definitions levels s = typeWithin? other levels s := by
  induction levels generalizing s with
  | zero => rfl
  | succ levels ih =>
    rw [typeWithin?_succ,typeWithin?_succ,← typeFrom?_redefined redefines _ free]
    exact typeFrom?_congr s fun t next => ih (next_free apart free next)

theorem typeOf?_redefined {s : Schema} (free : ¬ s.Composes name) :
    typeOf? definitions s = typeOf? other s := by
  apply Option.ext
  intro type
  rw [typeOf?_eq_some_iff,typeOf?_eq_some_iff]
  simp only [typeWithin?_redefined redefines apart _ free]

theorem flowType_redefined {s : Schema} (free : ¬ s.Composes name) :
    flowType definitions s = flowType other s := by
  funext before
  have first := flowType_notes definitions s before
  have second := flowType_notes other s before
  rw [typeOf?_redefined redefines apart free] at first
  exact first.trans second.symm

theorem declare?_redefined {key : String} {s : Schema} (free : ¬ s.Composes name) :
    declare? definitions key s = declare? other key s := by
  rw [declare?_eq,declare?_eq,typeOf?_redefined redefines apart free]

theorem declarations_redefined {all rest : List Declaration}
    (made : declarations definitions = .ok all) (found : declarations other = .ok rest) :
    List.Forall₂ (fun a b : Declaration => a.name = b.name ∧ (a.name ≠ name → a = b)) all rest := by
  have each : List.Forall₂ (fun x y : Option Declaration => ∀ a b, x = some a → y = some b →
      a.name = b.name ∧ (a.name ≠ name → a = b))
      (definitions.map fun entry => declare? definitions entry.1 entry.2)
      (other.map fun entry => declare? other entry.1 entry.2) := by
    rw [List.forall₂_map_left_iff,List.forall₂_map_right_iff]
    refine ((List.forall₂_and_left _ _).mpr ⟨apart,redefines⟩).imp ?_
    rintro ⟨key,s⟩ ⟨_,t⟩ ⟨free,rfl,same⟩ a b declared declares
    have named {table : Table Schema} {s : Schema} {a : Declaration}
        (declared : declare? table key s = some a) : a.name = key := by
      rw [declare?_eq] at declared
      obtain ⟨type,_,rfl⟩ := Option.map_eq_some_iff.mp declared
      rfl
    refine ⟨(named declared).trans (named declares).symm,fun different => ?_⟩
    rw [named declared] at different
    obtain rfl := same different
    rw [declare?_redefined redefines apart free] at declared
    exact Option.some.inj (declared.symm.trans declares)
  rw [(declarations_ok made).2,(declarations_ok found).2,List.forall₂_map_left_iff,
    List.forall₂_map_right_iff] at each
  exact each.imp fun a b same => same a b rfl rfl

end Types

section Documents

variable {d other : Document} {name : String} (redefines : d.Redefines name other)

include redefines

theorem Document.Redefines.endpoints (basePath : Option String) :
    d.endpoints basePath = other.endpoints basePath := by
  rw [redefines.rest]
  rfl

theorem Document.Redefines.hostname (baseUrl : Option String) :
    d.hostname? baseUrl = other.hostname? baseUrl := by
  rw [redefines.rest]
  rfl

variable (apart : ¬ d.Composes name)

omit redefines in
include apart in
theorem definitions_free : ∀ entry ∈ d.definitions, ¬ entry.2.Composes name := fun entry member composes =>
  apart ⟨entry.2,by simp [Document.schemas,show ∃ key, (key,entry.2) ∈ d.definitions from ⟨_,member⟩],
    composes⟩

include apart

theorem requests_redefined {basePath : Option String} {all : List Endpoint}
    (made : d.endpoints basePath = .ok all) (hostname : Option String) :
    (all.mapM fun e => e.request d.definitions hostname) =
      all.mapM fun e => e.request other.definitions hostname := by
  refine mapM_congr all fun e member => request_congr e hostname fun s inside => ?_
  exact flowType_redefined redefines.definitions (definitions_free apart) fun composes =>
    apart (endpoint_composes made member inside composes)

end Documents

theorem redefinesAt_insert {name : String} {definitions : Table Schema}
    (defined : name ∈ definitions.names) (s : Schema) :
    RedefinesAt name definitions (definitions.insert name s) := by
  have kept (rest : Table Schema) : RedefinesAt name rest rest :=
    List.forall₂_same.mpr fun _ _ => ⟨rfl,fun _ => rfl⟩
  induction definitions with
  | nil => cases defined
  | cons entry rest ih =>
    obtain ⟨key,t⟩ := entry
    rw [Table.insert]
    split
    · rename_i same
      exact .cons ⟨rfl,fun different => absurd same different⟩ (kept rest)
    · rename_i different
      refine .cons ⟨rfl,fun _ => rfl⟩ (ih ?_)
      exact (List.mem_cons.mp defined).resolve_left fun same => different same.symm

theorem declarations_ended {d : Document} {o : Overrides} {all : List Endpoint}
    (found : d.endpoints o.basePath = .ok all) (ends : d.client o ≠ .error .endlessComposition)
    (free : requestType ∉ d.definitions.names) : ∃ declared, declarations d.definitions = .ok declared := by
  cases declares : declarations d.definitions with
  | ok declared => exact ⟨declared,rfl⟩
  | error why =>
    -- Without the reserved name, nothing but an endless composition is left to report.
    have endless : why = .endlessComposition := by
      rw [declarations,if_neg (fun reserved => free ((reserved_iff _).mp reserved))] at declares
      split at declares <;> cases declares
      rfl
    exact absurd (client_of_declarations found (endless ▸ declares)) ends

/-- A definition that no composition refers to is opaque: whatever schema it has, everything but its own
declaration is the same. -/
theorem client_opaque {d other : Document} {name : String} (redefines : d.Redefines name other)
    (apart : ¬ d.Composes name) (o : Overrides)
    (ends : d.client o ≠ .error .endlessComposition)
    (otherEnds : other.client o ≠ .error .endlessComposition) :
    SameBut name (d.client o) (other.client o) := by
  have endpoints := redefines.endpoints o.basePath
  have names := redefines.definitions.names
  cases found : d.endpoints o.basePath with
  | error why =>
    rw [client_of_endpoints found,client_of_endpoints (endpoints ▸ found)]
    exact .failed why
  | ok all =>
    have others : other.endpoints o.basePath = .ok all := endpoints ▸ found
    by_cases reserved : requestType ∈ d.definitions.names
    · rw [client_of_declarations found (declarations_reserved _ reserved),
        client_of_declarations others (declarations_reserved _ (names ▸ reserved))]
      exact .failed _
    · obtain ⟨declared,declares⟩ := declarations_ended found ends reserved
      obtain ⟨rest,redeclares⟩ := declarations_ended others otherEnds (names ▸ reserved)
      have requests : (all.mapM fun e => e.request d.definitions (d.hostname? o.baseUrl)) =
          all.mapM fun e => e.request other.definitions (other.hostname? o.baseUrl) := by
        rw [requests_redefined redefines apart found,redefines.hostname]
      cases made : all.mapM fun e => e.request d.definitions (d.hostname? o.baseUrl) with
      | error why =>
        rw [client_of_requests found declares made,
          client_of_requests others redeclares (requests ▸ made)]
        exact .failed why
      | ok functions =>
        rw [client_eq found declares made,client_eq others redeclares (requests ▸ made)]
        exact .made {
          info := by rw [redefines.rest]
          hostname := redefines.hostname _
          declarations :=
            declarations_redefined redefines.definitions (definitions_free apart) declares redeclares
          requests := rfl
          warnings := by rw [names,redefines.rest]; rfl }

/-- A shelter whose definition of pets is referred to from everywhere but from a composition. -/
def shelterDocument : Document where
  info := { title := "Shelter", version := "1" }
  paths := [
    ("/pets", .item {
      parameters := [.inline {
        name := "near", location := .query, type := some "array"
        items := some { ref := some "#/definitions/Pet" } }]
      get := some {
        operationId := some "listPets"
        responses := [("200", { schema := some {
          type := some "array", items := some { ref := some "#/definitions/Pet" } } })] }
      post := some {
        operationId := some "addPet"
        parameters := [.inline {
          name := "pet", location := .body, schema := some { ref := some "#/definitions/Pet" } }] } })]
  definitions := [
    ("Owner", {
      allOf := [{ ref := some "#/definitions/Person" }]
      properties := [("pet", { ref := some "#/definitions/Pet" })] }),
    ("Pet", { type := some "string" }),
    ("Person", { type := some "object", properties := [("name", { type := some "string" })] })]

/-- Pets that are persons, each with a pet for its parent. -/
def talkingPet : Schema where
  allOf := [{ ref := some "#/definitions/Person" }]
  properties := [("parent", { ref := some "#/definitions/Pet" })]

theorem client_opaque_shelter :
    let other := { shelterDocument with
      definitions := shelterDocument.definitions.insert "Pet" talkingPet }
    shelterDocument.Redefines "Pet" other ∧ ¬ shelterDocument.Composes "Pet" ∧
      (∃ c, shelterDocument.client = .ok c) ∧ (∃ c, other.client = .ok c) ∧
      SameBut "Pet" shelterDocument.client other.client := by
  intro other
  have redefines : shelterDocument.Redefines "Pet" other :=
    ⟨redefinesAt_insert (by decide) talkingPet,rfl⟩
  have apart : ¬ shelterDocument.Composes "Pet" := by decide +kernel
  have accepted : fault? shelterDocument.client = none := by decide +kernel
  have others : fault? other.client = none := by decide +kernel
  obtain ⟨c,made⟩ := fault?_eq_none.mp accepted
  obtain ⟨more,found⟩ := fault?_eq_none.mp others
  have same := client_opaque redefines apart {} (by rw [made]; nofun) (by rw [found]; nofun)
  exact ⟨redefines,apart,⟨c,made⟩,⟨more,found⟩,same⟩

end FlowClient
