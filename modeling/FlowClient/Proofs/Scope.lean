import FlowClient.Proofs.Imports
import FlowClient.Proofs.Table
import Mathlib.Data.List.Forall2

/-! Scoping of request modules: every identifier in the body is a parameter, every placeholder of the
URL is the parameter of its own path argument, and every callee is imported once and never shadowed. -/

namespace FlowClient

def TemplatePart.identifier? : TemplatePart → Option String
  | .literal _ => none
  | .variable name => some name

namespace Expr

mutual

/-- The identifiers that an expression reads, from left to right. -/
def identifiers : Expr → List String
  | ident name => [name]
  | str _ => []
  | template parts => parts.filterMap TemplatePart.identifier?
  | concat left right => left.identifiers ++ right.identifiers
  | call _ args => identifiersAll args
  | new _ args => identifiersAll args
  | object fields => identifiersFields fields

def identifiersAll : List Expr → List String
  | [] => []
  | e :: rest => e.identifiers ++ identifiersAll rest

def identifiersFields : List (String × Expr) → List String
  | [] => []
  | (_, e) :: rest => e.identifiers ++ identifiersFields rest

end

mutual

/-- The functions and classes that an expression calls, from left to right. -/
def callees : Expr → List String
  | ident _ => []
  | str _ => []
  | template _ => []
  | concat left right => left.callees ++ right.callees
  | call callee args => callee :: calleesAll args
  | new callee args => callee :: calleesAll args
  | object fields => calleesFields fields

def calleesAll : List Expr → List String
  | [] => []
  | e :: rest => e.callees ++ calleesAll rest

def calleesFields : List (String × Expr) → List String
  | [] => []
  | (_, e) :: rest => e.callees ++ calleesFields rest

end

def templateParts : Expr → List TemplatePart
  | template parts => parts
  | concat left right => left.templateParts ++ right.templateParts
  | _ => []

end Expr

def Function.url? (f : Function) : Option Expr :=
  match f.body with
  | .new _ [request] => request.field? "url"
  | _ => none

/-- A piece of the URL template stands for a piece of the path: text for itself, and an identifier for
the placeholder of the path argument that its parameter, the only one of the name, is made of. -/
inductive Fills (arguments : List Argument) (params : List Param) : Segment → TemplatePart → Prop
  | literal (text : String) : Fills arguments params (.literal text) (.literal text)
  | placeholder (place : Nat) (a : Argument) (p : Param)
      (argument : arguments[place]? = some a) (parameter : params[place]? = some p)
      (only : params.filter (·.name = p.name) = [p])
      (found : (bindings arguments).lookup a.name = some p.name) :
      Fills arguments params (.placeholder a.name) (.variable p.name)

/-- The names in the function of an endpoint mean what they should. -/
structure Endpoint.Scoped (e : Endpoint) (m : Module) : Prop where
  distinct : (m.function.params.map (·.name)).Nodup
  required : (e.inputs.path.map (·.name)).Nodup
  filled : ∃ url, m.function.url? = some url ∧
    List.Forall₂ (Fills e.inputs.path m.function.params) (segments e.path) url.templateParts
  bound : ∀ name ∈ m.function.body.identifiers, name ∈ m.function.params.map (·.name)
  called : ∀ callee ∈ m.function.body.callees, callee ∈ [pipeName, queryHelper, formHelper] ∧
    m.imports.countP (·.binds callee) = 1 ∧ callee ∉ m.function.params.map (·.name)

section Body

variable (pieces : List Segment) (bound : List (String × String)) (hasQuery : Bool)
  (hostname : Option String)

theorem urlExpr_templateParts :
    (urlExpr pieces bound hasQuery hostname).templateParts = pieces.map (·.part bound) := by
  cases hasQuery <;> cases hostname <;> simp [urlExpr,Expr.templateParts]

theorem urlExpr_identifiers :
    (urlExpr pieces bound hasQuery hostname).identifiers =
      (pieces.map (·.part bound)).filterMap TemplatePart.identifier? ++
        (if hasQuery then ["query"] else []) := by
  cases hasQuery <;> cases hostname <;> simp [urlExpr,Expr.identifiers,Expr.identifiersAll]

theorem urlExpr_callees :
    (urlExpr pieces bound hasQuery hostname).callees = if hasQuery then [queryHelper] else [] := by
  cases hasQuery <;> cases hostname <;> simp [urlExpr,Expr.callees,Expr.calleesAll]

theorem requestExpr_identifiers (method : Method) (url : Expr) (hasData hasForm : Bool) :
    (requestExpr method url hasData hasForm).identifiers =
      url.identifiers ++ (if hasData then ["data"] else []) := by
  cases hasData <;> cases hasForm <;>
    simp [requestExpr,Expr.identifiers,Expr.identifiersAll,Expr.identifiersFields]

theorem requestExpr_callees (method : Method) (url : Expr) (hasData hasForm : Bool) :
    (requestExpr method url hasData hasForm).callees =
      url.callees ++ (if hasData && hasForm then [formHelper] else []) := by
  cases hasData <;> cases hasForm <;>
    simp [requestExpr,Expr.callees,Expr.calleesAll,Expr.calleesFields]

theorem requestExpr_url (method : Method) (url : Expr) (hasData hasForm : Bool) :
    (requestExpr method url hasData hasForm).field? "url" = some url := by
  cases hasData <;> cases hasForm <;> simp [requestExpr,Expr.field?,List.lookup_cons]

end Body

theorem filter_eq_singleton {α β : Type} [DecidableEq β] (f : α → β) (items : List α) (item : α)
    (distinct : (items.map f).Nodup) (member : item ∈ items) :
    items.filter (fun other => f other = f item) = [item] := by
  induction items with
  | nil => simp at member
  | cons head rest ih =>
    obtain ⟨apart,later⟩ := List.nodup_cons.mp distinct
    rcases List.mem_cons.mp member with rfl | inside
    · have others : rest.filter (fun other => f other = f item) = [] := by
        rw [List.filter_eq_nil_iff]
        intro other present same
        exact apart (List.mem_map.mpr ⟨other,present,by simpa using same⟩)
      rw [List.filter_cons_of_pos (by simp),others]
    · have different : ¬ f head = f item := by
        intro same
        exact apart (List.mem_map.mpr ⟨item,inside,same.symm⟩)
      rw [List.filter_cons_of_neg (by simpa using different)]
      exact ih later inside

section Parameters

variable (i : Inputs) (s : Signature) (fits : s.Fits i)

include fits

theorem signature_params_names :
    (s.params (bindings i.path)).map (·.name) = (bindings i.path).map Prod.snd ++
      (if !i.query.isEmpty then ["query"] else []) ++
      (if !i.form.isEmpty || i.body.isSome then ["data"] else []) := by
  have sound := bindings_bound i.path
  have size : s.path.length = (bindings i.path).length := by
    have equal := congrArg List.length sound.names_eq
    simpa [fits.path] using equal.symm
  rw [params_names s _ size,fits.query,fits.data]

theorem signature_params_nodup : ((s.params (bindings i.path)).map (·.name)).Nodup := by
  have sound := bindings_bound i.path
  have tail : ∀ hasQuery hasData : Bool,
      ((if hasQuery then ["query"] else []) ++ (if hasData then ["data"] else [])).Nodup ∧
        ∀ name ∈ (if hasQuery then ["query"] else []) ++ (if hasData then ["data"] else []),
          name ∈ generatedNames := by decide
  obtain ⟨distinct,generated⟩ := tail (!i.query.isEmpty) (!i.form.isEmpty || i.body.isSome)
  rw [signature_params_names i s fits,List.append_assoc,List.nodup_append']
  refine ⟨sound.distinct,distinct,?_⟩
  intro name bound member
  exact sound.not_generated name bound (generated name member)

theorem signature_params_getElem? (place : Nat) (a : Argument) (argument : i.path[place]? = some a) :
    ∃ p, (s.params (bindings i.path))[place]? = some p ∧
      (bindings i.path)[place]? = some (a.name, p.name) := by
  have sound := bindings_bound i.path
  have first : ((bindings i.path).map Prod.fst)[place]? = some a.name := by
    rw [sound.names_eq,List.getElem?_map,argument]
    rfl
  rw [List.getElem?_map] at first
  obtain ⟨⟨name,identifier⟩,found,rfl⟩ := Option.map_eq_some_iff.mp first
  have named : ((s.params (bindings i.path)).map (·.name))[place]? = some identifier := by
    have inside : place < ((bindings i.path).map Prod.snd).length := by
      rw [List.length_map]
      exact (List.getElem?_eq_some_iff.mp found).1
    rw [signature_params_names i s fits,List.append_assoc,List.getElem?_append_left inside,
      List.getElem?_map,found]
    rfl
  rw [List.getElem?_map] at named
  obtain ⟨p,parameter,rfl⟩ := Option.map_eq_some_iff.mp named
  exact ⟨p,parameter,found⟩

/-- Where the placeholders of a path are its arguments, each piece of the template fills its piece of
the path. -/
theorem pieces_filled (pieces : List Segment)
    (perm : (placeholders pieces).Perm (i.path.map (·.name))) :
    List.Forall₂ (Fills i.path (s.params (bindings i.path))) pieces
      (pieces.map (·.part (bindings i.path))) := by
  have distinct : ((bindings i.path).map Prod.fst).Nodup := by
    rw [(bindings_bound i.path).names_eq]
    exact perm.nodup_iff.mp (placeholders_nodup pieces)
  rw [List.forall₂_map_right_iff,List.forall₂_same]
  intro piece member
  cases piece with
  | literal text => exact .literal text
  | placeholder name =>
    have argued : name ∈ i.path.map (·.name) :=
      perm.mem_iff.mp ((mem_placeholders pieces name).mpr member)
    obtain ⟨a,inside,rfl⟩ := List.mem_map.mp argued
    obtain ⟨place,argument⟩ := List.mem_iff_getElem?.mp inside
    obtain ⟨p,parameter,pair⟩ := signature_params_getElem? i s fits place a argument
    have found := lookup_of_mem distinct (List.mem_of_getElem? pair)
    have only := filter_eq_singleton Param.name _ p (signature_params_nodup i s fits)
      (List.mem_of_getElem? parameter)
    have filled := Fills.placeholder place a p argument parameter only found
    simpa only [Segment.part,found,Option.getD_some] using filled

end Parameters

/-- Every identifier that a template reads fills a placeholder, so it names a parameter. -/
theorem filled_variables {arguments : List Argument} {params : List Param} {pieces : List Segment}
    {parts : List TemplatePart} (filled : List.Forall₂ (Fills arguments params) pieces parts) :
    ∀ name ∈ parts.filterMap TemplatePart.identifier?, name ∈ params.map (·.name) := by
  induction filled with
  | nil => simp
  | @cons piece part pieces parts here _ ih =>
    intro name member
    cases here with
    | literal text => exact ih name (by simpa [TemplatePart.identifier?] using member)
    | placeholder place a p argument parameter only found =>
      simp only [List.filterMap_cons,TemplatePart.identifier?,List.mem_cons] at member
      rcases member with rfl | rest
      · exact List.mem_map_of_mem (List.mem_of_getElem? parameter)
      · exact ih name rest

section Assembled

variable {e : Endpoint} {hostname : Option String} {types : Signature} {r : RequestFunction}
  (made : Assembled e hostname types r)

include made

theorem Assembled.url : r.module.function.url? = some (urlExpr (segments e.path)
    (bindings e.inputs.path) (!e.inputs.query.isEmpty) hostname) := by
  simp only [Function.url?,made.body,requestExpr_url]

theorem Assembled.params_names :
    r.module.function.params.map (·.name) = (bindings e.inputs.path).map Prod.snd ++
      (if !e.inputs.query.isEmpty then ["query"] else []) ++
      (if !e.inputs.form.isEmpty || e.inputs.body.isSome then ["data"] else []) := by
  rw [made.params]
  exact signature_params_names e.inputs types made.fits

theorem Assembled.params_nodup : (r.module.function.params.map (·.name)).Nodup := by
  rw [made.params]
  exact signature_params_nodup e.inputs types made.fits

theorem Assembled.filled :
    List.Forall₂ (Fills e.inputs.path r.module.function.params) (segments e.path)
      ((segments e.path).map (·.part (bindings e.inputs.path))) := by
  rw [made.params]
  exact pieces_filled e.inputs types made.fits (segments e.path) made.placeholders

theorem Assembled.identifiers_bound (name : String)
    (read : name ∈ r.module.function.body.identifiers) :
    name ∈ r.module.function.params.map (·.name) := by
  simp only [made.body,Expr.identifiers,Expr.identifiersAll,requestExpr_identifiers,
    urlExpr_identifiers,made.fits.data,List.append_nil,List.mem_append] at read
  rcases read with (inPath | inQuery) | inData
  · exact filled_variables made.filled name inPath
  · rw [made.params_names]
    simp only [List.mem_append]
    exact .inl (.inr inQuery)
  · rw [made.params_names]
    exact List.mem_append_right _ inData

theorem Assembled.callees_runtime (callee : String)
    (called : callee ∈ r.module.function.body.callees) :
    callee ∈ [pipeName, queryHelper, formHelper] ∧
      callee ∈ runtimeImports (!e.inputs.query.isEmpty) (!e.inputs.form.isEmpty) := by
  simp only [made.body,Expr.callees,Expr.calleesAll,requestExpr_callees,urlExpr_callees,
    List.append_nil] at called
  revert called
  cases !e.inputs.query.isEmpty <;> cases !e.inputs.form.isEmpty <;> cases types.data.isSome <;>
    simp [runtimeImports] <;> tauto

theorem Assembled.runtime_not_params (callee : String)
    (runtime : callee ∈ [pipeName, queryHelper, formHelper]) :
    callee ∉ r.module.function.params.map (·.name) := by
  have generated : ∀ name ∈ [pipeName, queryHelper, formHelper],
      name ∈ generatedNames ∧ name ≠ "query" ∧ name ≠ "data" := by decide
  obtain ⟨member,notQuery,notData⟩ := generated callee runtime
  have free : callee ∉ (bindings e.inputs.path).map Prod.snd :=
    fun bound => (bindings_bound e.inputs.path).not_generated callee bound member
  rw [made.params_names]
  split <;> split <;> simpa [notQuery,notData] using free

end Assembled

/-- The request module of an accepted endpoint is well scoped. -/
theorem request_scoped (e : Endpoint) (definitions : Table Schema) (hostname : Option String)
    (r : RequestFunction) (accepted : e.request definitions hostname = .ok r) :
    e.Scoped r.module := by
  obtain ⟨types,made⟩ := request_assembled e definitions hostname r accepted
  refine ⟨made.params_nodup,made.placeholders.nodup_iff.mp (placeholders_nodup _),
    ⟨_,made.url,?_⟩,made.identifiers_bound,?_⟩
  · rw [urlExpr_templateParts]
    exact made.filled
  · intro callee called
    obtain ⟨runtime,imported⟩ := made.callees_runtime callee called
    refine ⟨runtime,?_,made.runtime_not_params callee runtime⟩
    apply countP_binds _ _ made.imported_nodup
    rw [made.imported]
    exact List.mem_append_left _ imported

/-- Two path arguments whose names give one identifier, and a response named like the runtime class. -/
def filesEndpoint : Endpoint where
  method := .get
  path := "/files/\x7bfile-id\x7d/\x7bfile_id\x7d/\x7bfile-id\x7d"
  id := "getFile"
  arguments := [⟨"file_id", .path, true, some (.ofType "string"), none⟩,
    ⟨"file-id", .path, true, none, none⟩, ⟨"data", .query, false, some (.ofType "integer"), none⟩]
  responseSchema := some { ref := some "#/definitions/AjaxPipe" }
  summary := none
  description := none

theorem request_scoped_files : ∃ r, filesEndpoint.request [] (some "https://api.test") = .ok r ∧
    filesEndpoint.Scoped r.module := by
  obtain ⟨r,accepted⟩ := request_accepted filesEndpoint [] (some "https://api.test") (by decide)
    (by decide +kernel)
  exact ⟨r,accepted,request_scoped _ _ _ _ accepted⟩

end FlowClient
