import FlowClient.Endpoint
import FlowClient.Proofs.Request
import FlowClient.Proofs.Table

/-! Endpoints of a document. They are found where every parameter reference of a path item resolves and no
identifier comes twice; the first reference that does not resolve is the one reported. -/

namespace FlowClient

/-- Why a result is none. -/
def fault? {ε α : Type} : Except ε α → Option ε
  | .ok _ => none
  | .error e => some e

section Faults

variable {ε α β : Type}

theorem fault?_eq_some {x : Except ε α} {e : ε} : fault? x = some e ↔ x = .error e := by
  cases x <;> simp [fault?]

theorem fault?_eq_none {x : Except ε α} : fault? x = none ↔ ∃ a, x = .ok a := by
  cases x <;> simp [fault?]

theorem bind_fault? {x : Except ε α} {f : α → Except ε β} {later : Option ε}
    (same : ∀ a, fault? (f a) = later) : fault? (x >>= f) = (fault? x).or later := by
  cases x with
  | error e => rfl
  | ok a => exact same a

theorem mapM_fault? {ι : Type} (f : ι → Except ε α) (items : List ι) :
    fault? (items.mapM f) = items.findSome? fun i => fault? (f i) := by
  induction items with
  | nil => rfl
  | cons item items ih =>
    rw [List.mapM_cons,List.findSome?_cons,← ih]
    cases f item with
    | error e => rfl
    | ok a => cases items.mapM f <;> rfl

theorem findSome?_flatMap {ι : Type} (f : ι → List α) (g : α → Option ε) (items : List ι) :
    (items.flatMap f).findSome? g = items.findSome? fun i => (f i).findSome? g := by
  induction items with
  | nil => rfl
  | cons item items ih =>
    rw [List.flatMap_cons,List.findSome?_append,List.findSome?_cons,ih]
    cases (f item).findSome? g <;> rfl

theorem mapM_ok_map {ι γ : Type} {f : ι → Except ε α} {g : α → γ} {h : ι → γ} {items : List ι}
    {all : List α} (each : ∀ i a, f i = .ok a → g a = h i) (ok : items.mapM f = .ok all) :
    all.map g = items.map h := by
  induction items generalizing all with
  | nil =>
    cases ok
    rfl
  | cons item items ih =>
    rw [List.mapM_cons] at ok
    cases first : f item with
    | error e =>
      rw [first] at ok
      cases ok
    | ok a =>
      cases later : items.mapM f with
      | error e =>
        rw [first,later] at ok
        cases ok
      | ok rest =>
        rw [first,later] at ok
        cases ok
        rw [List.map_cons,List.map_cons,each item a first,ih later]

theorem mapM_ok_eq {ι : Type} {f : ι → Except ε α} {items : List ι} {all : List α}
    (ok : items.mapM f = .ok all) : all.map Except.ok = items.map f :=
  mapM_ok_map (fun _ _ same => same.symm) ok

theorem mapM_ok_mem {ι : Type} {f : ι → Except ε α} {items : List ι} {all : List α}
    (ok : items.mapM f = .ok all) {a : α} (member : a ∈ all) : ∃ i ∈ items, f i = .ok a := by
  have inside : .ok a ∈ all.map (Except.ok : α → Except ε α) := List.mem_map_of_mem member
  rw [mapM_ok_eq ok] at inside
  exact List.mem_map.mp inside

end Faults

def ParameterEntry.reference? : ParameterEntry → Option String
  | .reference ref => some ref
  | .inline _ => none

def PathItem.operations (item : PathItem) : List (Method × Operation) :=
  Method.all.filterMap fun m => (item.operation? m).map fun op => (m, op)

def PathItem.references (item : PathItem) : List String :=
  (item.parameters ++ item.operations.flatMap (·.2.parameters)).filterMap ParameterEntry.reference?

def Document.references (d : Document) : List String :=
  d.pathItems.flatMap (·.2.references)

def Document.identifiers (d : Document) : List String :=
  d.pathItems.flatMap fun entry => entry.2.operations.map fun op =>
    operationName (op.2.operationId.getD (routeName op.1.verb entry.1))

/-- The reference names one of the shared parameters. -/
def Resolves (shared : Table Parameter) (ref : String) : Prop :=
  ∃ name ∈ shared.names, ref = parametersRoot ++ name

/-- The reference leads to no shared parameter, for this reason. -/
inductive Dangles (shared : Table Parameter) : String → ConversionError → Prop
  | foreign (ref : String) (outside : ¬ parametersRoot.toList <+: ref.toList) :
    Dangles shared ref (.invalidReference ref)
  | missing (name : String) (absent : name ∉ shared.names) :
    Dangles shared (parametersRoot ++ name) (.unresolvedParameter (parametersRoot ++ name))

theorem after?_eq_some {beginning s rest : String} :
    after? beginning s = some rest ↔ s = beginning ++ rest := by
  unfold after?
  rw [Option.map_eq_some_iff]
  constructor
  · rintro ⟨chars,found,rfl⟩
    apply String.toList_inj.mp
    rw [List.isPrefixOf?_eq_some_iff_append_eq] at found
    simp [← found]
  · rintro rfl
    refine ⟨rest.toList,?_,String.ofList_toList⟩
    rw [List.isPrefixOf?_eq_some_iff_append_eq,String.toList_append]

theorem after?_eq_none {beginning s : String} :
    after? beginning s = none ↔ ¬ beginning.toList <+: s.toList := by
  rw [Option.eq_none_iff_forall_ne_some]
  constructor
  · rintro none ⟨rest,equal⟩
    refine none (String.ofList rest) (after?_eq_some.mpr (String.toList_inj.mp ?_))
    rw [String.toList_append,String.toList_ofList,equal]
  · intro outside rest found
    exact outside ⟨rest.toList,by rw [after?_eq_some.mp found,String.toList_append]⟩

theorem findParameter_dangles (shared : Table Parameter) (ref : String) (why : ConversionError) :
    findParameter shared ref = .error why ↔ Dangles shared ref why := by
  unfold findParameter
  constructor
  · intro failed
    split at failed
    · rename_i outside
      cases failed
      exact .foreign ref (after?_eq_none.mp outside)
    · rename_i name inside
      split at failed
      · rename_i absent
        cases failed
        rw [after?_eq_some.mp inside]
        exact .missing name (get?_eq_none.mp absent)
      · cases failed
  · intro dangles
    cases dangles with
    | foreign _ outside => rw [after?_eq_none.mpr outside]
    | missing name absent => simp only [after?_eq_some.mpr rfl,get?_eq_none.mpr absent]

theorem findParameter_resolves (shared : Table Parameter) (ref : String) :
    (∃ p, findParameter shared ref = .ok p) ↔ Resolves shared ref := by
  unfold findParameter
  constructor
  · rintro ⟨p,found⟩
    split at found
    · cases found
    · rename_i name inside
      split at found
      · cases found
      · rename_i present
        refine ⟨name,?_,after?_eq_some.mp inside⟩
        by_contra absent
        rw [get?_eq_none.mpr absent] at present
        cases present
  · rintro ⟨name,member,rfl⟩
    simp only [after?_eq_some.mpr rfl]
    cases found : shared.get? name with
    | none => exact absurd member (get?_eq_none.mp found)
    | some p => exact ⟨p,rfl⟩

section Resolution

variable (parameters : Table Parameter)

theorem resolveArguments_fault? (entries : List ParameterEntry) :
    fault? (resolveArguments parameters entries) =
      (entries.filterMap ParameterEntry.reference?).findSome? fun ref =>
        fault? (findParameter parameters ref) := by
  have resolved : fault? (resolveArguments parameters entries) =
      (fault? (entries.mapM (·.resolve parameters))).or none := bind_fault? fun _ => rfl
  rw [resolved,Option.or_none,mapM_fault?]
  induction entries with
  | nil => rfl
  | cons entry entries ih =>
    cases entry with
    | reference ref =>
      rw [List.findSome?_cons,ih (bind_fault? fun _ => rfl)]
      rfl
    | inline p => exact ih (bind_fault? fun _ => rfl)

theorem operation_fault? (op : Operation) (base path : String) (method : Method)
    (shared : List Argument) : fault? (op.endpoint parameters base path method shared) =
      (op.parameters.filterMap ParameterEntry.reference?).findSome? fun ref =>
        fault? (findParameter parameters ref) := by
  have own : fault? (op.endpoint parameters base path method shared) =
      (fault? (resolveArguments parameters op.parameters)).or none := bind_fault? fun _ => rfl
  rw [own,Option.or_none,resolveArguments_fault?]

theorem pathItem_fault? (item : PathItem) (base path : String) :
    fault? (item.endpoints parameters base path) =
      item.references.findSome? fun ref => fault? (findParameter parameters ref) := by
  have operations (shared : List Argument) :
      fault? (item.operations.mapM fun op => op.2.endpoint parameters base path op.1 shared) =
        ((item.operations.flatMap (·.2.parameters)).filterMap ParameterEntry.reference?).findSome?
          fun ref => fault? (findParameter parameters ref) := by
    rw [mapM_fault?,List.filterMap_flatMap,findSome?_flatMap]
    simp only [operation_fault?]
  have whole : fault? (item.endpoints parameters base path) =
      (fault? (resolveArguments parameters item.parameters)).or _ := bind_fault? operations
  rw [whole,resolveArguments_fault?,PathItem.references,List.filterMap_append,List.findSome?_append]

theorem operation_id (op : Operation) (base path : String) (method : Method) (shared : List Argument)
    (e : Endpoint) (made : op.endpoint parameters base path method shared = .ok e) :
    e.id = operationName (op.operationId.getD (routeName method.verb path)) := by
  unfold Operation.endpoint at made
  cases own : resolveArguments parameters op.parameters with
  | error why =>
    rw [own] at made
    cases made
  | ok arguments =>
    rw [own] at made
    cases made
    rfl

theorem pathItem_ids (item : PathItem) (base path : String) (all : List Endpoint)
    (made : item.endpoints parameters base path = .ok all) :
    all.map (·.id) = item.operations.map fun op =>
      operationName (op.2.operationId.getD (routeName op.1.verb path)) := by
  unfold PathItem.endpoints at made
  cases shared : resolveArguments parameters item.parameters with
  | error why =>
    rw [shared] at made
    cases made
  | ok arguments =>
    rw [shared] at made
    exact mapM_ok_map (fun op e made => operation_id parameters op.2 base path op.1 arguments e made) made

end Resolution

section Repeated

variable {texts : List String}

theorem mem_repeated {text : String} : text ∈ repeated texts ↔ 1 < texts.count text := by
  rw [repeated,List.mem_filter,List.mem_eraseDups,decide_eq_true_eq]
  exact and_iff_right_of_imp fun often => List.count_pos_iff.mp (Nat.lt_of_succ_lt often)

theorem repeated_order (texts : List String) :
    (repeated texts).Pairwise fun a b => texts.idxOf a < texts.idxOf b :=
  (eraseDups_order texts).filter _

/-- The texts that come more than once, in order of their first places, are the repeated ones. -/
theorem eq_repeated {twice : List String} (exactly : ∀ text, text ∈ twice ↔ 1 < texts.count text)
    (order : twice.Pairwise fun a b => texts.idxOf a < texts.idxOf b) : twice = repeated texts := by
  have nodup {list : List String}
      (order : list.Pairwise fun a b => texts.idxOf a < texts.idxOf b) : list.Nodup :=
    order.imp fun less same => absurd less (by rw [same]; exact Nat.lt_irrefl _)
  apply List.Perm.eq_of_pairwise _ order (repeated_order texts)
  · rw [List.perm_ext_iff_of_nodup (nodup order) (nodup (repeated_order texts))]
    exact fun text => (exactly text).trans mem_repeated.symm
  · intro a b _ _ less more
    exact absurd less (Nat.lt_asymm more)

theorem repeated_eq_nil : repeated texts = [] ↔ texts.Nodup := by
  rw [List.nodup_iff_count_le_one,List.eq_nil_iff_forall_not_mem]
  simp only [mem_repeated,Nat.not_lt]

end Repeated

def Document.endpointGroups (d : Document) (basePath : Option String) :
    Except ConversionError (List (List Endpoint)) :=
  d.pathItems.mapM fun entry =>
    entry.2.endpoints d.parameters (d.effectiveBasePath basePath) entry.1

section Groups

variable {d : Document} {basePath : Option String}

variable (d basePath) in
theorem groups_fault? : fault? (d.endpointGroups basePath) =
    d.references.findSome? fun ref => fault? (findParameter d.parameters ref) := by
  rw [Document.endpointGroups,mapM_fault?,Document.references,findSome?_flatMap]
  simp only [pathItem_fault?]

theorem groups_ids {groups : List (List Endpoint)} (made : d.endpointGroups basePath = .ok groups) :
    groups.flatten.map (·.id) = d.identifiers := by
  rw [List.map_flatten,mapM_ok_map (fun entry all made => pathItem_ids _ entry.2 _ entry.1 all made)
    made]
  rfl

theorem endpoints_of_fault {why : ConversionError} (failed : d.endpointGroups basePath = .error why) :
    d.endpoints basePath = .error why := by
  unfold Document.endpointGroups at failed
  unfold Document.endpoints
  dsimp only
  rw [failed]
  rfl

theorem endpoints_of_groups {groups : List (List Endpoint)}
    (made : d.endpointGroups basePath = .ok groups) :
    d.endpoints basePath = if d.identifiers.Nodup then .ok groups.flatten
      else .error (.duplicateIdentifiers (repeated d.identifiers)) := by
  have ids := groups_ids made
  unfold Document.endpointGroups at made
  unfold Document.endpoints
  dsimp only
  rw [made]
  change (if (repeated (groups.flatten.map (·.id))).isEmpty then Except.ok groups.flatten
    else .error (ConversionError.duplicateIdentifiers (repeated (groups.flatten.map (·.id))))) = _
  rw [ids]
  by_cases distinct : d.identifiers.Nodup
  · simp only [repeated_eq_nil.mpr distinct,List.isEmpty_nil,if_true,distinct]
  · have some : ¬ (repeated d.identifiers).isEmpty = true := fun empty =>
      distinct (repeated_eq_nil.mp (List.isEmpty_iff.mp empty))
    rw [if_neg some,if_neg distinct]

end Groups

theorem findSome?_dangles {shared : Table Parameter} {refs : List String} {why : ConversionError} :
    (refs.findSome? fun ref => fault? (findParameter shared ref)) = some why ↔
      ∃ before ref after, refs = before ++ ref :: after ∧ (∀ r ∈ before, Resolves shared r) ∧
        Dangles shared ref why := by
  rw [List.findSome?_eq_some_iff]
  simp only [fault?_eq_some,fault?_eq_none,findParameter_dangles,findParameter_resolves]
  constructor
  · rintro ⟨before,ref,after,listed,dangles,earlier⟩
    exact ⟨before,ref,after,listed,earlier,dangles⟩
  · rintro ⟨before,ref,after,listed,earlier,dangles⟩
    exact ⟨before,ref,after,listed,dangles,earlier⟩

theorem findSome?_resolves {shared : Table Parameter} {refs : List String} :
    (refs.findSome? fun ref => fault? (findParameter shared ref)) = none ↔
      ∀ ref ∈ refs, Resolves shared ref := by
  simp only [List.findSome?_eq_none_iff,fault?_eq_none,findParameter_resolves]

/-- A document has no endpoints where a reference dangles, and the first one that does is reported, or else
where identifiers are repeated. -/
theorem endpoints_error_iff (d : Document) (basePath : Option String) (why : ConversionError) :
    d.endpoints basePath = .error why ↔
      (∃ before ref after, d.references = before ++ ref :: after ∧
        (∀ r ∈ before, Resolves d.parameters r) ∧ Dangles d.parameters ref why) ∨
      ((∀ ref ∈ d.references, Resolves d.parameters ref) ∧ ¬ d.identifiers.Nodup ∧
        why = .duplicateIdentifiers (repeated d.identifiers)) := by
  have found := groups_fault? d basePath
  rw [← findSome?_dangles,← findSome?_resolves,← found]
  cases made : d.endpointGroups basePath with
  | error first => simp [endpoints_of_fault made,fault?]
  | ok groups =>
    rw [endpoints_of_groups made]
    by_cases distinct : d.identifiers.Nodup
    · simp [distinct,fault?]
    · simp [distinct,fault?,eq_comm]

/-- A document has endpoints where every reference resolves and no identifier is repeated. -/
theorem endpoints_found_iff (d : Document) (basePath : Option String) :
    (∃ all, d.endpoints basePath = .ok all) ↔
      (∀ ref ∈ d.references, Resolves d.parameters ref) ∧ d.identifiers.Nodup := by
  have found := groups_fault? d basePath
  rw [← findSome?_resolves,← found]
  cases made : d.endpointGroups basePath with
  | error first => simp [endpoints_of_fault made,fault?]
  | ok groups =>
    rw [endpoints_of_groups made]
    by_cases distinct : d.identifiers.Nodup <;> simp [distinct,fault?]

theorem endpoints_ids {d : Document} {basePath : Option String} {all : List Endpoint}
    (made : d.endpoints basePath = .ok all) : all.map (·.id) = d.identifiers := by
  cases found : d.endpointGroups basePath with
  | error first =>
    rw [endpoints_of_fault found] at made
    cases made
  | ok groups =>
    rw [endpoints_of_groups found] at made
    split at made
    · cases made
      exact groups_ids found
    · cases made

end FlowClient
