import FlowClient.Proofs.Endpoints
import FlowClient.Proofs.Keyed
import Mathlib.Data.List.DropRight
import Mathlib.Data.List.Forall2

/-! Places of endpoints. Every operation under a path is at one place, given by its path and its method, and
the endpoints of a document stand for its places one by one, in its order. -/

namespace FlowClient

structure Place where
  key : String
  item : PathItem
  method : Method
  operation : Operation

/-- The document has an operation at the place, and its key is that of a path. -/
structure Document.Offers (d : Document) (p : Place) : Prop where
  parameters : p.key ≠ "parameters"
  reference : p.key ≠ "$ref"
  extension : ¬ "x-".toList <+: p.key.toList
  entry : (p.key,.item p.item) ∈ d.paths
  declared : p.item.operation? p.method = some p.operation

def Method.rank : Method → Nat
  | .get => 0
  | .put => 1
  | .post => 2
  | .delete => 3
  | .options => 4
  | .patch => 5

/-- Paths stand in the order of the document, and the methods of a path in their own. -/
def Document.Precedes (d : Document) (p q : Place) : Prop :=
  d.paths.names.idxOf p.key < d.paths.names.idxOf q.key ∨
    p.key = q.key ∧ p.method.rank < q.method.rank

/-- Nothing is left out but slashes at the end, of which none remains. -/
structure Trimmed (raw base : String) : Prop where
  slashes : ∃ count, raw.toList = base.toList ++ List.replicate count '/'
  bare : base.toList.getLast? ≠ some '/'

/-- What an entry stands for: the parameter in place, or the shared one of the name that it refers to. -/
inductive Stands (shared : Table Parameter) : ParameterEntry → Parameter → Prop
  | inline (p : Parameter) : Stands shared (.inline p) p
  | reference (name : String) (p : Parameter) (found : shared.get? name = some p) :
    Stands shared (.reference (parametersRoot ++ name)) p

def ArgumentsOf (shared : Table Parameter) (entries : List ParameterEntry)
    (arguments : List Argument) : Prop :=
  ∃ given, List.Forall₂ (Stands shared) entries given ∧
    arguments = given.filterMap Parameter.argument?

def Operation.schemaOf (op : Operation) (code : String) : Option Schema :=
  (op.responses.get? code).bind (·.schema)

structure Document.Describes (d : Document) (given : Option String) (p : Place) (e : Endpoint) :
    Prop where
  method : e.method = p.method
  path : ∃ base, Trimmed ((given.or d.basePath).getD "") base ∧ e.path = base ++ p.key
  id : e.id = operationName (p.operation.operationId.getD (routeName p.method.verb p.key))
  arguments : ∃ own shared, ArgumentsOf d.parameters p.operation.parameters own ∧
    ArgumentsOf d.parameters p.item.parameters shared ∧ e.arguments = mergeArguments own shared
  response : e.responseSchema = (p.operation.schemaOf "200").or (p.operation.schemaOf "default")
  summary : e.summary = p.operation.summary
  description : e.description = p.operation.description

theorem successSchema?_eq (op : Operation) :
    op.successSchema? = (op.schemaOf "200").or (op.schemaOf "default") := by
  change ["200","default"].findSome? op.schemaOf = _
  cases first : op.schemaOf "200" with
  | some s => simp [first]
  | none => cases second : op.schemaOf "default" <;> simp [first,second]

def PathItem.places (item : PathItem) (key : String) : List Place :=
  item.operations.map fun op => ⟨key,item,op.1,op.2⟩

def Document.places (d : Document) : List Place :=
  d.pathItems.flatMap fun entry => entry.2.places entry.1

theorem mapM_ok_forall₂ {ε ι α : Type} {f : ι → Except ε α} {items : List ι} {all : List α}
    (ok : items.mapM f = .ok all) : List.Forall₂ (fun i a => f i = .ok a) items all := by
  have same : List.Forall₂ Eq (items.map f) (all.map Except.ok) := by
    rw [mapM_ok_eq ok]
    exact List.forall₂_refl _
  rw [List.forall₂_map_left_iff,List.forall₂_map_right_iff] at same
  exact same

theorem trimSlashes_trimmed (raw : String) : Trimmed raw (trimSlashes raw) := by
  have base : (trimSlashes raw).toList = raw.toList.rdropWhile (· = '/') := String.toList_ofList
  constructor
  · have slashes : ∀ c ∈ raw.toList.rtakeWhile (· = '/'), c = '/' :=
      fun c member => of_decide_eq_true (List.mem_rtakeWhile_imp (p := fun c => decide (c = '/')) member)
    exact ⟨_,by rw [base,← List.eq_replicate_length.mpr slashes,List.rdropWhile_append_rtakeWhile]⟩
  · rw [base]
    intro last
    obtain ⟨front,ends⟩ := List.getLast?_eq_some_iff.mp last
    have more : raw.toList.rdropWhile (· = '/') ≠ [] := by simp [ends]
    exact List.rdropWhile_last_not _ _ more (by simp [ends])

section Arguments

variable {parameters : Table Parameter}

theorem resolve_stands {entry : ParameterEntry} {p : Parameter}
    (resolved : entry.resolve parameters = .ok p) : Stands parameters entry p := by
  cases entry with
  | inline given =>
    obtain rfl := Except.ok.inj resolved
    exact .inline given
  | reference ref =>
    change findParameter parameters ref = .ok p at resolved
    unfold findParameter at resolved
    split at resolved
    · cases resolved
    · rename_i name inside
      split at resolved
      · cases resolved
      · rename_i found
        obtain rfl := Except.ok.inj resolved
        rw [after?_eq_some.mp inside]
        exact .reference name _ found

theorem resolveArguments_ok {entries : List ParameterEntry} {arguments : List Argument}
    (resolved : resolveArguments parameters entries = .ok arguments) :
    ArgumentsOf parameters entries arguments := by
  unfold resolveArguments at resolved
  cases all : entries.mapM (·.resolve parameters) with
  | error why =>
    rw [all] at resolved
    cases resolved
  | ok given =>
    rw [all] at resolved
    cases resolved
    exact ⟨given,(mapM_ok_forall₂ all).imp fun _ _ => resolve_stands,rfl⟩

end Arguments

theorem isPathless_eq_false {key : String} : isPathless key = false ↔
    key ≠ "parameters" ∧ key ≠ "$ref" ∧ ¬ "x-".toList <+: key.toList := by
  rw [isPathless,Bool.or_eq_false_iff,Bool.or_eq_false_iff,decide_eq_false_iff_not,
    decide_eq_false_iff_not,and_assoc,← after?_eq_none,Option.isSome_eq_false_iff,Option.isNone_iff_eq_none]

section Places

variable {d : Document}

theorem mem_pathItems_iff {key : String} {item : PathItem} : (key,item) ∈ d.pathItems ↔
    isPathless key = false ∧ (key,.item item) ∈ d.paths := by
  unfold Document.pathItems
  rw [List.mem_filterMap]
  constructor
  · rintro ⟨⟨name,entry⟩,member,kept⟩
    split at kept
    · cases kept
    · rename_i named
      cases entry with
      | other value => cases kept
      | item i =>
        cases kept
        exact ⟨Bool.eq_false_iff.mpr named,member⟩
  · rintro ⟨named,member⟩
    exact ⟨_,member,by simp [named,PathEntry.item?]⟩

theorem mem_operations {item : PathItem} {method : Method} {op : Operation} :
    (method,op) ∈ item.operations ↔ item.operation? method = some op := by
  unfold PathItem.operations
  simp only [List.mem_filterMap,Option.map_eq_some_iff,Prod.mk.injEq]
  constructor
  · rintro ⟨m,_,op,found,rfl,rfl⟩
    exact found
  · intro found
    exact ⟨method,method.mem_all,op,found,rfl,rfl⟩

theorem mem_places {p : Place} : p ∈ d.places ↔ d.Offers p := by
  obtain ⟨key,item,method,op⟩ := p
  simp only [Document.places,PathItem.places,List.mem_flatMap,List.mem_map,Place.mk.injEq]
  constructor
  · rintro ⟨entry,member,found,declared,rfl,rfl,rfl,rfl⟩
    obtain ⟨named,entry⟩ := mem_pathItems_iff.mp member
    obtain ⟨parameters,reference,extension⟩ := isPathless_eq_false.mp named
    exact ⟨parameters,reference,extension,entry,mem_operations.mp declared⟩
  · intro offers
    have named := isPathless_eq_false.mpr ⟨offers.parameters,offers.reference,offers.extension⟩
    exact ⟨(key,item),mem_pathItems_iff.mpr ⟨named,offers.entry⟩,(method,op),
      mem_operations.mpr offers.declared,rfl,rfl,rfl,rfl⟩

theorem operations_order (item : PathItem) :
    item.operations.Pairwise fun a b => a.1.rank < b.1.rank := by
  have methods : Method.all.Pairwise fun a b => a.rank < b.rank := by decide
  unfold PathItem.operations
  refine List.pairwise_filterMap.mpr (methods.imp ?_)
  simp only [Option.map_eq_some_iff]
  rintro m n less _ ⟨_,_,rfl⟩ _ ⟨_,_,rfl⟩
  exact less

theorem idxOf_order {names : List String} (distinct : names.Nodup) :
    names.Pairwise fun a b => names.idxOf a < names.idxOf b := by
  rw [List.pairwise_iff_getElem]
  intro i j first second less
  rwa [distinct.idxOf_getElem,distinct.idxOf_getElem]

theorem pathItems_order (distinct : d.paths.names.Nodup) :
    d.pathItems.Pairwise fun a b => d.paths.names.idxOf a.1 < d.paths.names.idxOf b.1 := by
  have entries := idxOf_order distinct
  rw [Table.names,List.pairwise_map] at entries
  unfold Document.pathItems
  refine List.pairwise_filterMap.mpr (entries.imp ?_)
  intro entry later less a kept b keptLater
  have named {entry : String × PathEntry} {a : String × PathItem}
      (kept : (if isPathless entry.1 then none else entry.2.item?.map fun item => (entry.1,item)) =
        some a) : a.1 = entry.1 := by
    split at kept
    · cases kept
    · obtain ⟨item,_,rfl⟩ := Option.map_eq_some_iff.mp kept
      rfl
  rw [named kept,named keptLater]
  exact less

theorem places_order (distinct : d.paths.names.Nodup) : d.places.Pairwise d.Precedes := by
  unfold Document.places
  rw [List.pairwise_flatMap]
  -- Under one path the methods are in order; between paths their keys are.
  constructor
  · intro entry _
    rw [PathItem.places,List.pairwise_map]
    exact (operations_order entry.2).imp fun less => .inr ⟨rfl,less⟩
  · refine (pathItems_order distinct).imp ?_
    intro entry later less p here q there
    obtain ⟨_,_,rfl⟩ := List.mem_map.mp here
    obtain ⟨_,_,rfl⟩ := List.mem_map.mp there
    exact .inl less

end Places

section Endpoints

variable {d : Document} {given : Option String}

theorem operation_described {key : String} {item : PathItem} {shared : List Argument}
    (common : resolveArguments d.parameters item.parameters = .ok shared) {entry : Method × Operation}
    {e : Endpoint} (made : entry.2.endpoint d.parameters (d.effectiveBasePath given) key entry.1 shared =
      .ok e) : d.Describes given ⟨key,item,entry.1,entry.2⟩ e := by
  unfold Operation.endpoint at made
  cases own : resolveArguments d.parameters entry.2.parameters with
  | error why =>
    rw [own] at made
    cases made
  | ok arguments =>
    rw [own] at made
    cases made
    exact {
      method := rfl
      path := ⟨_,trimSlashes_trimmed _,rfl⟩
      id := rfl
      arguments := ⟨_,_,resolveArguments_ok own,resolveArguments_ok common,rfl⟩
      response := successSchema?_eq entry.2
      summary := rfl
      description := rfl }

theorem pathItem_described {key : String} {item : PathItem} {all : List Endpoint}
    (made : item.endpoints d.parameters (d.effectiveBasePath given) key = .ok all) :
    List.Forall₂ (d.Describes given) (item.places key) all := by
  unfold PathItem.endpoints at made
  cases common : resolveArguments d.parameters item.parameters with
  | error why =>
    rw [common] at made
    cases made
  | ok shared =>
    rw [common] at made
    rw [PathItem.places,List.forall₂_map_left_iff]
    exact (mapM_ok_forall₂ made).imp fun _ _ made => operation_described common made

theorem endpoints_described {all : List Endpoint} (made : d.endpoints given = .ok all) :
    List.Forall₂ (d.Describes given) d.places all := by
  cases found : d.endpointGroups given with
  | error why =>
    rw [endpoints_of_fault found] at made
    cases made
  | ok groups =>
    rw [endpoints_of_groups found] at made
    split at made
    · cases made
      have each : List.Forall₂ (List.Forall₂ (d.Describes given))
          (d.pathItems.map fun entry => entry.2.places entry.1) groups := by
        rw [List.forall₂_map_left_iff]
        exact (mapM_ok_forall₂ found).imp fun _ _ => pathItem_described
      exact List.rel_flatten each
    · cases made

end Endpoints

/-- The endpoints of a document are those for its places, in the order of the places, and no two of them have
one identifier. -/
theorem endpoints_in_place {d : Document} (keyed : d.Keyed) {given : Option String}
    {all : List Endpoint} (made : d.endpoints given = .ok all) :
    ∃ places : List Place, (∀ p, p ∈ places ↔ d.Offers p) ∧ places.Pairwise d.Precedes ∧
      List.Forall₂ (d.Describes given) places all ∧ (all.map (·.id)).Nodup := by
  have distinct : (all.map (·.id)).Nodup := by
    rw [endpoints_ids made]
    exact ((endpoints_found_iff d given).mp ⟨all,made⟩).2
  exact ⟨d.places,fun _ => mem_places,places_order keyed.paths,endpoints_described made,distinct⟩

/-- A path that is listed before another one, with its methods out of order, among keys of no paths. -/
def harbourDocument : Document where
  basePath := some "/v1"
  paths := [
    ("x-berths", .item { get := some {} }),
    ("/ships/{ship}", .item {
      parameters := [.reference "#/parameters/ship",
        .inline { name := "day", location := .query, required := true }]
      patch := some { operationId := some "moor.ship" }
      get := some {
        parameters := [.inline { name := "day", location := .query }]
        responses := [("default", { schema := some { type := some "string" } }), ("200", {})] } }),
    ("parameters", .item { post := some {} }),
    ("/piers", .item { delete := some {}, post := some { operationId := some "build pier" } }),
    ("/cranes", .other .null),
    ("$ref", .item { put := some {} })]
  parameters := [("ship", { name := "ship", location := .path, required := true })]

def harbourEndpoint (method : Method) (path id : String) (arguments : List Argument)
    (responseSchema : Option Schema) : Endpoint :=
  ⟨method,path,id,arguments,responseSchema,none,none⟩

/-- The day that an operation asks for replaces that of its path. -/
def harbourEndpoints : List Endpoint := [
  harbourEndpoint .get "/v2/ships/{ship}" "getShip"
    [⟨"day",.query,false,none,none⟩,⟨"ship",.path,true,none,none⟩] (some { type := some "string" }),
  harbourEndpoint .patch "/v2/ships/{ship}" "moor_ship"
    [⟨"ship",.path,true,none,none⟩,⟨"day",.query,true,none,none⟩] none,
  harbourEndpoint .post "/v2/piers" "build_pier" [] none,
  harbourEndpoint .delete "/v2/piers" "deletePiers" [] none]

theorem endpoints_in_place_harbour : harbourDocument.Keyed ∧
    harbourDocument.endpoints (some "/v2//") = .ok harbourEndpoints ∧
    ∃ places : List Place, (∀ p, p ∈ places ↔ harbourDocument.Offers p) ∧
      places.Pairwise harbourDocument.Precedes ∧
      List.Forall₂ (harbourDocument.Describes (some "/v2//")) places harbourEndpoints ∧
      (harbourEndpoints.map (·.id)).Nodup := by
  have keyed : harbourDocument.Keyed := by decide
  have made : harbourDocument.endpoints (some "/v2//") = .ok harbourEndpoints := by rfl
  exact ⟨keyed,made,endpoints_in_place keyed made⟩

end FlowClient
