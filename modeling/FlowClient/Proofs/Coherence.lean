import FlowClient.Proofs.TypeImports

/-! The parts of request functions. What an endpoint takes decides on its parameters, on the fields of the
request and on the helpers that are called and imported, and all of these say the same. -/

namespace FlowClient

def Function.request? (f : Function) : Option Expr :=
  match f.body with
  | .new _ [request] => some request
  | _ => none

def Param.Carries (a : Argument) (p : Param) : Prop :=
  ∃ count, p.name = underscored (parameterIdentifier a.name) count

/-- One parameter of the name where it is asked for, of a type that is met; else none. -/
def TakenIf (asked : Prop) (name : String) (meets : FlowType → Prop) (params : List Param) : Prop :=
  (asked ∧ ∃ type, params = [⟨name, type⟩] ∧ meets type) ∨ (¬ asked ∧ params = [])

/-- The exact object of the arguments: one field for each name, at its first place, which may be left out
where no argument of the name is required. -/
def FlowType.ObjectOf (arguments : List Argument) (type : FlowType) : Prop :=
  ∃ fields, type = .exact fields ∧ fields.map (·.name) = (arguments.map (·.name)).eraseDups ∧
    ∀ field ∈ fields, field.optional = true ↔
      ∀ a ∈ arguments, a.name = field.name → a.required = false

structure Endpoint.Coherent (e : Endpoint) (m : Module) : Prop where
  params : ∃ path query data, m.function.params = path ++ query ++ data ∧
    List.Forall₂ Param.Carries ((e.argumentsIn .path).filter (·.required)) path ∧
    TakenIf (e.argumentsIn .query ≠ []) "query" (·.ObjectOf (e.argumentsIn .query)) query ∧
    TakenIf (e.argumentsIn .formData ≠ [] ∨ e.argumentsIn .body ≠ []) "data"
      (fun type => e.argumentsIn .formData ≠ [] → type.ObjectOf (e.argumentsIn .formData)) data
  data : ((m.function.request?.bind (·.field? "data")).isSome = true ↔
    "data" ∈ m.function.params.map (·.name))
  query_calls : m.function.body.calls queryHelper = if e.argumentsIn .query = [] then 0 else 1
  form_calls : m.function.body.calls formHelper = if e.argumentsIn .formData = [] then 0 else 1
  imported : ∀ helper ∈ [queryHelper, formHelper], m.imports.filter (·.binds helper) =
    if m.function.body.calls helper = 0 then [] else [helperImport helper]

/-- The other endpoint differs in nothing but its body arguments. -/
structure Endpoint.SameButBody (e other : Endpoint) : Prop where
  rest : { other with arguments := [] } = { e with arguments := [] }
  arguments : other.arguments.filter (·.placement ≠ .body) = e.arguments.filter (·.placement ≠ .body)

section Objects

variable {definitions : Table Schema}

theorem FlowType.ObjectOf.rename {arguments : List Argument} {type : FlowType}
    (object : type.ObjectOf arguments) (renames : List (String × String)) :
    (type.rename renames).ObjectOf arguments := by
  obtain ⟨fields,rfl,names,optional⟩ := object
  have renamed (all : List (Property FlowType)) : renameProperties renames all =
      all.map fun p => ⟨p.name,p.value.rename renames,p.optional⟩ := by
    induction all with
    | nil => rfl
    | cons p all ih => rw [renameProperties,ih,List.map_cons]
  refine ⟨_,by rw [FlowType.rename,renamed],?_,?_⟩
  · rw [List.map_map]
    exact names
  · intro field member
    obtain ⟨p,inside,rfl⟩ := List.mem_map.mp member
    exact optional p inside

theorem FlowType.RecordOf.object {arguments : List Argument} {type : FlowType}
    (record : type.RecordOf definitions arguments) : type.ObjectOf arguments := by
  obtain ⟨fields,rfl,names,each⟩ := record
  exact ⟨fields,rfl,names,fun field member => (each field member).optional⟩

theorem Recorded.object {arguments : List Argument} {type : FlowType}
    (recorded : Recorded definitions arguments [type]) : type.ObjectOf arguments := by
  rcases recorded with ⟨_,none⟩ | ⟨_,own,same,record⟩
  · cases none
  · obtain rfl := List.singleton_inj.mp same
    exact record.object

end Objects

section Calls

theorem urlExpr_calls (callee : String) (pieces : List Segment) (bound : List (String × String))
    (hasQuery : Bool) (hostname : Option String) :
    (urlExpr pieces bound hasQuery hostname).calls callee =
      if hasQuery ∧ queryHelper = callee then 1 else 0 := by
  cases hasQuery <;> cases hostname <;> simp [urlExpr,Expr.calls,Expr.callsAll]

theorem requestExpr_calls (callee : String) (method : Method) (url : Expr) (hasData hasForm : Bool) :
    (requestExpr method url hasData hasForm).calls callee =
      url.calls callee + if hasData ∧ hasForm ∧ formHelper = callee then 1 else 0 := by
  cases hasData <;> cases hasForm <;> simp [requestExpr,Expr.calls,Expr.callsAll,Expr.callsFields]

theorem requestExpr_data (method : Method) (url : Expr) (hasData hasForm : Bool) :
    ((requestExpr method url hasData hasForm).field? "data").isSome = hasData := by
  cases hasData <;> simp [requestExpr,Expr.field?,List.lookup_cons]

variable {e : Endpoint} {hostname : Option String} {types : Signature} {r : RequestFunction}
  (made : Assembled e hostname types r)

include made

theorem Assembled.query_calls : r.module.function.body.calls queryHelper =
    if e.argumentsIn .query = [] then 0 else 1 := by
  have other : formHelper ≠ queryHelper := by decide
  rw [made.body]
  simp only [Expr.calls,Expr.callsAll,requestExpr_calls,urlExpr_calls,other]
  by_cases asked : e.argumentsIn .query = [] <;> simp [Endpoint.inputs,asked]

theorem Assembled.form_calls : r.module.function.body.calls formHelper =
    if e.argumentsIn .formData = [] then 0 else 1 := by
  have other : queryHelper ≠ formHelper := by decide
  have data := made.fits.data
  rw [made.body]
  simp only [Expr.calls,Expr.callsAll,requestExpr_calls,urlExpr_calls,other,data]
  by_cases asked : e.argumentsIn .formData = [] <;> simp [Endpoint.inputs,asked]

theorem Assembled.helper_imported {helper : String} (runtime : helper ∈ [queryHelper, formHelper])
    (taken : helper ∈ runtimeImports (!e.inputs.query.isEmpty) (!e.inputs.form.isEmpty)) :
    r.module.imports.filter (·.binds helper) = [helperImport helper] := by
  refine filter_binds made.imported_nodup ?_ (by simp [Import.binds,helperImport,Specifier.binding])
  have apart : requestType ∉ [queryHelper, formHelper] ∧ pipeName ∉ [queryHelper, formHelper] := by
    decide
  rw [made.imports]
  simp only [requestImports,runtimeImports,List.mem_append] at taken ⊢
  grind

theorem Assembled.helper_absent {helper : String} (runtime : helper ∈ [queryHelper, formHelper])
    (absent : helper ∉ runtimeImports (!e.inputs.query.isEmpty) (!e.inputs.form.isEmpty)) :
    r.module.imports.filter (·.binds helper) = [] := by
  have known : ∀ name ∈ [queryHelper, formHelper], name ∈ runtimeBindings := by decide
  have sound := localNames_localized _ made.distinct
  rw [List.filter_eq_nil_iff]
  intro i member binds
  have bound : helper ∈ r.module.imports.flatMap fun i => i.specifiers.map (·.binding) :=
    List.mem_flatMap.mpr ⟨i,member,(binds_iff i helper).mp binds⟩
  rw [made.imported,List.mem_append] at bound
  rcases bound with taken | own
  · exact absent taken
  · exact sound.clear helper own (known helper runtime)

theorem Assembled.taken_iff {helper : String} (runtime : helper ∈ [queryHelper, formHelper]) :
    helper ∈ runtimeImports (!e.inputs.query.isEmpty) (!e.inputs.form.isEmpty) ↔
      r.module.function.body.calls helper ≠ 0 := by
  have apart : queryHelper ∉ [requestType, formHelper, pipeName] ∧
      formHelper ∉ [requestType, queryHelper, pipeName] := by decide
  rcases List.mem_pair.mp runtime with rfl | rfl
  · rw [made.query_calls]
    by_cases asked : e.argumentsIn .query = [] <;>
      simp_all [runtimeImports,Endpoint.inputs]
  · rw [made.form_calls]
    by_cases asked : e.argumentsIn .formData = [] <;>
      simp_all [runtimeImports,Endpoint.inputs]

theorem Assembled.imports_called {helper : String} (runtime : helper ∈ [queryHelper, formHelper]) :
    r.module.imports.filter (·.binds helper) =
      if r.module.function.body.calls helper = 0 then [] else [helperImport helper] := by
  have taken := made.taken_iff runtime
  split
  · rename_i uncalled
    exact made.helper_absent runtime fun inside => taken.mp inside uncalled
  · rename_i called
    exact made.helper_imported runtime (taken.mpr called)

/-- No path argument is bound to the name of the data. -/
theorem Assembled.data_iff :
    (r.module.function.request?.bind (·.field? "data")).isSome = true ↔
      "data" ∈ r.module.function.params.map (·.name) := by
  have generated : "data" ∈ generatedNames := by decide
  have free : "data" ∉ (bindings e.inputs.path).map Prod.snd :=
    fun bound => (bindings_bound e.inputs.path).not_generated "data" bound generated
  have field : (r.module.function.request?.bind (·.field? "data")).isSome = types.data.isSome := by
    simp only [Function.request?,made.body,Option.bind_some,requestExpr_data]
  rw [field,made.fits.data,made.params_names]
  simp [free]

end Calls

section Parameters

theorem bindings_carry (path : List Argument) (types : List FlowType)
    (size : types.length = path.length) :
    List.Forall₂ Param.Carries path
      (((bindings path).zip types).map fun pair => ⟨pair.1.2,pair.2⟩) := by
  have sound := bindings_bound path
  have length : (bindings path).length = path.length := by
    simpa using congrArg List.length sound.names_eq
  rw [List.forall₂_iff_get]
  refine ⟨by simp [length,size],?_⟩
  intro place inside given
  have bound : place < (bindings path).length := by omega
  obtain ⟨count,equal⟩ := sound.mended _ (List.getElem_mem bound)
  have named : (bindings path)[place].1 = path[place].name := by
    have names := congrArg (·[place]?) sound.names_eq
    simpa [bound,inside] using names
  refine ⟨count,?_⟩
  rw [named] at equal
  simpa using equal

theorem takenIf_toList {asked : Prop} {meets : FlowType → Prop} {type : Option FlowType} (name : String)
    (given : type.isSome = true ↔ asked) (met : ∀ t, type = some t → meets t) :
    TakenIf asked name meets (type.map fun t => (⟨name, t⟩ : Param)).toList := by
  cases type with
  | none => exact .inr ⟨by simpa using given,rfl⟩
  | some t => exact .inl ⟨by simpa using given,t,rfl,met t rfl⟩

end Parameters

section Body

variable {e other : Endpoint} (same : e.SameButBody other)

include same

theorem Endpoint.SameButBody.argumentsIn {placement : Placement} (kept : placement ≠ .body) :
    other.argumentsIn placement = e.argumentsIn placement := by
  have within (endpoint : Endpoint) : endpoint.argumentsIn placement =
      (endpoint.arguments.filter (·.placement ≠ .body)).filter (·.placement = placement) := by
    rw [List.filter_filter,Endpoint.argumentsIn]
    apply List.filter_congr
    intro a _
    by_cases here : a.placement = placement <;> simp [here,kept]
  rw [within other,within e,same.arguments]

theorem Endpoint.SameButBody.inputs :
    other.inputs = { e.inputs with body := other.inputs.body } := by
  simp only [Endpoint.inputs,same.argumentsIn (show Placement.path ≠ .body by decide),
    same.argumentsIn (show Placement.query ≠ .body by decide),
    same.argumentsIn (show Placement.formData ≠ .body by decide)]

/-- Where there is form data, the body arguments are not read. -/
theorem Endpoint.SameButBody.request (form : e.argumentsIn .formData ≠ []) (definitions : Table Schema)
    (hostname : Option String) : other.request definitions hostname = e.request definitions hostname := by
  have typed (body : Option Argument) : ({ e.inputs with body := body } : Inputs).dataType definitions =
      e.inputs.dataType definitions := by
    simp [Inputs.dataType,Endpoint.inputs,form]
  have signature : other.inputs.signature definitions e.responseSchema =
      e.inputs.signature definitions e.responseSchema := by
    rw [same.inputs]
    simp only [Inputs.signature,typed]
  have rest := same.rest
  simp only [Endpoint.mk.injEq] at rest
  obtain ⟨method,path,id,_,response,summary,description⟩ := rest
  have checked : checkPlaceholders other (segments other.path) other.inputs.path =
      checkPlaceholders e (segments e.path) e.inputs.path := by
    unfold checkPlaceholders
    rw [same.inputs,path,id]
  have assembled (types : Signature) (names : List String) :
      other.assemble hostname types names = e.assemble hostname types names := by
    unfold Endpoint.assemble
    rw [same.inputs,path,id,method,summary,description]
  simp only [Endpoint.request,checked,response,signature,assembled]

end Body

/-- The parameters, the request, the calls and the imports of an accepted endpoint agree on what it takes;
and a body beside form data counts for nothing. -/
theorem request_coherent (e : Endpoint) (definitions : Table Schema) (hostname : Option String)
    (r : RequestFunction) (accepted : e.request definitions hostname = .ok r) :
    e.Coherent r.module ∧ (e.argumentsIn .formData ≠ [] → ∀ other, e.SameButBody other →
      other.request definitions hostname = .ok r) := by
  refine ⟨?_,fun form other same => (same.request form definitions hostname).trans accepted⟩
  obtain ⟨perm,types,names,run,rfl⟩ := (request_ok_iff e definitions hostname r).mp accepted
  have fits := signature_fits _ _ _ _ _ _ run
  have typed := signature_of run
  have made : Assembled e hostname _ (e.assemble hostname types names) :=
    ⟨fits.rename _,perm,importNames_nodup names none,rfl,rfl,rfl,rfl,rfl⟩
  refine ⟨⟨_,_,_,made.params,?_,?_,?_⟩,?_,made.query_calls,made.form_calls,?_⟩
  · exact bindings_carry _ _ made.fits.path
  · apply takenIf_toList
    · rw [made.fits.query]
      simp [Endpoint.inputs]
    · intro type found
      obtain ⟨own,given,rfl⟩ := Option.map_eq_some_iff.mp found
      have query := typed.query
      rw [given] at query
      exact query.object.rename _
  · apply takenIf_toList
    · rw [made.fits.data]
      simp [Endpoint.inputs]
    · intro type found form
      obtain ⟨own,given,rfl⟩ := Option.map_eq_some_iff.mp found
      have data := typed.form form
      rw [given] at data
      exact data.object.rename _
  · exact made.data_iff
  · exact fun helper runtime => made.imports_called runtime

/-- Repeated names in the query, a path argument that is not required, and a body beside form data. -/
def photoEndpoint : Endpoint where
  method := .post
  path := "/albums/\x7balbum\x7d/photos/\x7bphoto-id\x7d"
  id := "addPhoto"
  arguments := [⟨"photo-id", .path, true, some (.ofType "string"), none⟩,
    ⟨"tag", .query, false, some (.ofType "string"), none⟩,
    ⟨"size", .path, false, some (.ofType "integer"), none⟩,
    ⟨"tag", .query, true, some { type := some "array", items := some (.ofType "string") }, none⟩,
    ⟨"body", .body, true, some { ref := some "#/definitions/Photo" }, none⟩,
    ⟨"limit", .query, false, none, none⟩, ⟨"file", .formData, true, some (.ofType "file"), none⟩,
    ⟨"album", .path, true, some { ref := some "#/definitions/Album" }, none⟩]
  responseSchema := some { ref := some "#/definitions/Photo" }
  summary := none
  description := none

def photoRebodied : Endpoint := { photoEndpoint with
  arguments := ⟨"raw", .body, false, some { ref := some "#/definitions/Raw" }, none⟩ ::
    photoEndpoint.arguments.filter (·.placement ≠ .body) ++ [⟨"body", .body, false, none, none⟩] }

theorem request_coherent_photo : ∃ r, photoEndpoint.request [] none = .ok r ∧
    photoEndpoint.Coherent r.module ∧ photoEndpoint.argumentsIn .formData ≠ [] ∧
    photoEndpoint.SameButBody photoRebodied ∧ photoRebodied.request [] none = .ok r := by
  obtain ⟨r,accepted⟩ := request_accepted photoEndpoint [] none (by decide) (by decide +kernel)
  obtain ⟨coherent,blind⟩ := request_coherent photoEndpoint [] none r accepted
  have form : photoEndpoint.argumentsIn .formData ≠ [] := List.cons_ne_nil _ _
  have same : photoEndpoint.SameButBody photoRebodied := ⟨rfl,rfl⟩
  exact ⟨r,accepted,coherent,form,same,blind form photoRebodied same⟩

end FlowClient
