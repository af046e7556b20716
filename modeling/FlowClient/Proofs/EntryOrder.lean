import FlowClient.Proofs.Client
import FlowClient.Proofs.Keyed

/-! Order of entries. Documents that list the same paths, definitions and parameters in different orders have
clients with the same functions and declarations, again in different orders. -/

namespace FlowClient

/-- The documents list the same entries in orders of their own and are equal otherwise. -/
structure Document.Reordered (d other : Document) : Prop where
  paths : d.paths.Perm other.paths
  definitions : d.definitions.Perm other.definitions
  parameters : d.parameters.Perm other.parameters
  rest : other = { d with
    paths := other.paths, definitions := other.definitions, parameters := other.parameters }

/-- The clients have the same parts, in orders of their own. -/
structure Client.SameParts (c other : Client) : Prop where
  hostname : c.hostname = other.hostname
  requests : c.requests.Perm other.requests
  declarations : c.declarations.Perm other.declarations

section Tables

variable {α : Type} {t u : Table α}

theorem Table.get?_eq_some_iff (distinct : t.names.Nodup) {name : String} {value : α} :
    t.get? name = some value ↔ (name,value) ∈ t :=
  ⟨Table.mem_of_get?,lookup_of_mem distinct⟩

theorem Table.names_perm (perm : t.Perm u) : t.names.Perm u.names := perm.map Prod.fst

theorem Table.get?_perm (perm : t.Perm u) (distinct : t.names.Nodup) (name : String) :
    t.get? name = u.get? name := by
  apply Option.ext
  intro value
  have other := (Table.names_perm perm).nodup distinct
  rw [Table.get?_eq_some_iff distinct,Table.get?_eq_some_iff other,perm.mem_iff]

end Tables

section Results

variable {ε ι α : Type} {f : ι → Except ε α} {items others : List ι}

theorem mapM_perm (perm : items.Perm others) {all : List α} (made : items.mapM f = .ok all) :
    ∃ rest, others.mapM f = .ok rest ∧ all.Perm rest := by
  have found : fault? (others.mapM f) = none := by
    rw [mapM_fault?,List.findSome?_eq_none_iff]
    intro item member
    have each := mapM_fault? f items
    rw [made] at each
    exact List.findSome?_eq_none_iff.mp each.symm item (perm.mem_iff.mpr member)
  obtain ⟨rest,other⟩ := fault?_eq_none.mp found
  refine ⟨rest,other,?_⟩
  apply (List.map_perm_map_iff (f := (Except.ok : α → Except ε α)) fun _ _ => Except.ok.inj).mp
  rw [mapM_ok_eq made,mapM_ok_eq other]
  exact perm.map f

end Results

section Definitions

variable {definitions other : Table Schema} (perm : definitions.Perm other)
  (distinct : definitions.names.Nodup)

include perm distinct

theorem sources_perm (s : Schema) (parts : List Schema) :
    sources definitions s parts = sources other s parts := by
  have same : sourceOf? definitions = sourceOf? other := by
    funext part
    unfold sourceOf?
    split
    · exact Table.get?_perm perm distinct _
    · rfl
  rw [sources,sources,same]

theorem flowTypeWithin_perm (levels : Nat) :
    flowTypeWithin definitions levels = flowTypeWithin other levels := by
  induction levels with
  | zero => rfl
  | succ levels ih =>
    funext s
    simp only [flowTypeWithin,ih,sources_perm perm distinct]

theorem flowType_perm : flowType definitions = flowType other := by
  funext s
  have levels : levelsFor definitions s = levelsFor other s := by
    unfold levelsFor schemasOver
    rw [List.length_append,List.length_append,(perm.flatMap_right _).length_eq]
  rw [flowType,flowType,levels,flowTypeWithin_perm perm distinct]

theorem typeOf?_perm : typeOf? definitions = typeOf? other := by
  funext s
  rw [typeOf?,typeOf?,flowType_perm perm distinct]

theorem request_perm (e : Endpoint) (hostname : Option String) :
    e.request definitions hostname = e.request other hostname :=
  request_congr e hostname fun s _ => congrFun (flowType_perm perm distinct) s

theorem declarations_perm {all : List Declaration} (made : declarations definitions = .ok all) :
    ∃ rest, declarations other = .ok rest ∧ all.Perm rest := by
  have declares : declare? definitions = declare? other := by
    funext name s
    rw [declare?_eq,declare?_eq,typeOf?_perm perm distinct]
  obtain ⟨free,ends⟩ := declarations_found_iff.mp ⟨all,made⟩
  have found : ∃ rest, declarations other = .ok rest := by
    rw [declarations_found_iff]
    refine ⟨fun defined => free ((Table.names_perm perm).mem_iff.mpr defined),?_⟩
    intro entry member
    have typed := (typeOf?_isSome_iff _ _).mpr (ends entry (perm.mem_iff.mpr member))
    rw [typeOf?_perm perm distinct] at typed
    exact (typeOf?_isSome_iff _ _).mp typed
  obtain ⟨rest,declared⟩ := found
  refine ⟨rest,declared,?_⟩
  apply (List.map_perm_map_iff (f := (some : Declaration → Option Declaration))
    fun _ _ => Option.some.inj).mp
  rw [← (declarations_ok made).2,← (declarations_ok declared).2,declares]
  exact perm.map _

end Definitions

section Parameters

variable {parameters other : Table Parameter} (perm : parameters.Perm other)
  (distinct : parameters.names.Nodup)

include perm distinct

theorem resolveArguments_perm : resolveArguments parameters = resolveArguments other := by
  have found : findParameter parameters = findParameter other := by
    funext ref
    unfold findParameter
    simp only [Table.get?_perm perm distinct]
  have resolved : ParameterEntry.resolve parameters = ParameterEntry.resolve other := by
    funext entry
    cases entry with
    | inline p => rfl
    | reference ref => exact congrFun found ref
  funext entries
  rw [resolveArguments,resolveArguments,resolved]

theorem pathItem_perm (item : PathItem) (base path : String) :
    item.endpoints parameters base path = item.endpoints other base path := by
  simp only [PathItem.endpoints,Operation.endpoint,resolveArguments_perm perm distinct]

end Parameters

section Documents

variable {d other : Document} (keyed : d.Keyed) (same : d.Reordered other)

include same

theorem Document.Reordered.basePath (given : Option String) :
    d.effectiveBasePath given = other.effectiveBasePath given := by
  rw [same.rest]
  rfl

theorem Document.Reordered.hostname (baseUrl : Option String) :
    d.hostname? baseUrl = other.hostname? baseUrl := by
  rw [same.rest]
  rfl

include keyed

theorem endpointGroups_reordered (basePath : Option String) : other.endpointGroups basePath =
    other.pathItems.mapM fun entry =>
      entry.2.endpoints d.parameters (d.effectiveBasePath basePath) entry.1 := by
  simp only [Document.endpointGroups,same.basePath,pathItem_perm same.parameters keyed.parameters]

theorem endpoints_perm {basePath : Option String} {all : List Endpoint}
    (made : d.endpoints basePath = .ok all) :
    ∃ rest, other.endpoints basePath = .ok rest ∧ all.Perm rest := by
  cases found : d.endpointGroups basePath with
  | error why =>
    rw [endpoints_of_fault found] at made
    cases made
  | ok groups =>
    have items : d.pathItems.Perm other.pathItems := same.paths.filterMap _
    obtain ⟨more,reordered,perm⟩ := mapM_perm items found
    have others := (endpointGroups_reordered keyed same basePath).trans reordered
    have ids := perm.flatten.map (·.id)
    rw [groups_ids found,groups_ids others] at ids
    rw [endpoints_of_groups found] at made
    split at made
    · rename_i distinct
      obtain rfl := Except.ok.inj made
      exact ⟨more.flatten,by rw [endpoints_of_groups others,if_pos (ids.nodup distinct)],perm.flatten⟩
    · cases made

theorem client_perm {o : Overrides} {c : Client} (accepted : d.client o = .ok c) :
    ∃ more, other.client o = .ok more ∧ c.SameParts more := by
  obtain ⟨all,made⟩ := client_made accepted
  obtain ⟨rest,endpoints,reordered⟩ := endpoints_perm keyed same made.endpoints
  obtain ⟨declared,declares,declarations⟩ :=
    declarations_perm same.definitions keyed.definitions made.declarations
  obtain ⟨requests,requested,functions⟩ := mapM_perm reordered made.requests
  rw [same.hostname] at requested
  simp only [request_perm same.definitions keyed.definitions] at requested
  obtain ⟨more,found,rfl,rfl,hostname⟩ := client_found endpoints declares requested
  exact ⟨more,found,made.hostname.trans ((same.hostname _).trans hostname.symm),functions,declarations⟩

end Documents

theorem Document.Reordered.symm {d other : Document} (same : d.Reordered other) : other.Reordered d where
  paths := same.paths.symm
  definitions := same.definitions.symm
  parameters := same.parameters.symm
  rest := by rw [same.rest]

theorem Document.Reordered.keyed {d other : Document} (same : d.Reordered other) (keyed : d.Keyed) :
    other.Keyed where
  paths := (Table.names_perm same.paths).nodup keyed.paths
  definitions := (Table.names_perm same.definitions).nodup keyed.definitions
  parameters := (Table.names_perm same.parameters).nodup keyed.parameters

/-- The order of entries decides neither whether there is a client nor what its parts are. -/
theorem client_reordered {d other : Document} (keyed : d.Keyed) (same : d.Reordered other)
    (o : Overrides) : ((∃ c, d.client o = .ok c) ↔ ∃ c, other.client o = .ok c) ∧
      ∀ c more, d.client o = .ok c → other.client o = .ok more → c.SameParts more := by
  refine ⟨⟨?_,?_⟩,?_⟩
  · rintro ⟨c,accepted⟩
    obtain ⟨more,found,_⟩ := client_perm keyed same accepted
    exact ⟨more,found⟩
  · rintro ⟨c,accepted⟩
    obtain ⟨more,found,_⟩ := client_perm (same.keyed keyed) same.symm accepted
    exact ⟨more,found⟩
  · intro c more accepted other
    obtain ⟨found,made,parts⟩ := client_perm keyed same accepted
    obtain rfl := Except.ok.inj (made.symm.trans other)
    exact parts

/-- Two endpoints that share a parameter, and a definition that another one is composed of. -/
def shopDocument : Document where
  info := { title := "Shop", version := "1" }
  host := some "shop"
  schemes := ["https"]
  paths := [
    ("/toys", .item {
      parameters := [.reference "#/parameters/limit"]
      get := some {
        operationId := some "listToys"
        responses := [("200", { schema := some {
          type := some "array", items := some { ref := some "#/definitions/Toy" } } })] } }),
    ("/sales", .item {
      get := some {
        operationId := some "listSales"
        parameters := [.reference "#/parameters/limit", .reference "#/parameters/day"] } })]
  definitions := [
    ("Toy", { allOf := [{ ref := some "#/definitions/Thing" }] }),
    ("Thing", { type := some "object", properties := [("name", { type := some "string" })] })]
  parameters := [
    ("limit", { name := "limit", location := .query, type := some "integer" }),
    ("day", { name := "day", location := .query, type := some "string" })]

/-- The same shop from the last entry to the first. -/
def shopBackwards : Document := { shopDocument with
  paths := shopDocument.paths.reverse
  definitions := shopDocument.definitions.reverse
  parameters := shopDocument.parameters.reverse }

theorem client_reordered_shop : shopDocument.Keyed ∧ shopDocument.Reordered shopBackwards ∧
    ∃ c more, shopDocument.client = .ok c ∧ shopBackwards.client = .ok more ∧ c.SameParts more := by
  have keyed : shopDocument.Keyed := by decide
  have same : shopDocument.Reordered shopBackwards :=
    ⟨(List.reverse_perm _).symm,(List.reverse_perm _).symm,(List.reverse_perm _).symm,rfl⟩
  have accepted : fault? shopDocument.client = none := by decide +kernel
  obtain ⟨c,made⟩ := fault?_eq_none.mp accepted
  obtain ⟨more,found⟩ := (client_reordered keyed same {}).1.mp ⟨c,made⟩
  exact ⟨keyed,same,c,more,made,found,(client_reordered keyed same {}).2 c more made found⟩

end FlowClient
