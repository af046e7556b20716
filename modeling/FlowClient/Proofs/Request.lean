import FlowClient.Proofs.Bindings
import FlowClient.Proofs.Distinct

/-! Accepted endpoints: what a successful request function tells of its placeholders, of the shape of
its signature and of the names of its parameters. -/

namespace FlowClient

theorem toOption_eq_some {ε α : Type} {x : Except ε α} {a : α} : x.toOption = some a ↔ x = .ok a := by
  cases x <;> simp [Except.toOption]

theorem Typing.bind_some {α β : Type} (x : Typing α) (next : α → Typing β) (before : List String)
    (result : β × List String) (ok : (x >>= next).run before = some result) :
    ∃ a between, x.run before = some (a, between) ∧ (next a).run between = some result := by
  rw [StateT.run_bind] at ok
  obtain ⟨⟨a,between⟩,first,second⟩ := Option.bind_eq_some_iff.mp ok
  exact ⟨a,between,first,second⟩

theorem Typing.map_some {α β : Type} (f : α → β) (x : Typing α) (before : List String)
    (result : β × List String) (ok : (f <$> x).run before = some result) :
    ∃ a, x.run before = some (a, result.2) ∧ f a = result.1 := by
  rw [StateT.run_map] at ok
  obtain ⟨⟨a,after⟩,first,second⟩ := Option.map_eq_some_iff.mp ok
  subst second
  exact ⟨a,first,rfl⟩

theorem Typing.mapM_length {α β : Type} (f : α → Typing β) (items : List α) (before : List String)
    (result : List β × List String) (ok : (items.mapM f).run before = some result) :
    result.1.length = items.length := by
  induction items generalizing before result with
  | nil =>
    simp only [List.mapM_nil] at ok
    cases ok
    rfl
  | cons item items ih =>
    rw [List.mapM_cons] at ok
    obtain ⟨b,_,_,ok⟩ := Typing.bind_some _ _ _ _ ok
    obtain ⟨bs,_,rest,ok⟩ := Typing.bind_some _ _ _ _ ok
    cases ok
    simpa using ih _ _ rest

/-- The signature has a type for every path argument, and types for query and data exactly where the
endpoint takes them. -/
structure Signature.Fits (s : Signature) (i : Inputs) : Prop where
  path : s.path.length = i.path.length
  query : s.query.isSome = !i.query.isEmpty
  data : s.data.isSome = (!i.form.isEmpty || i.body.isSome)

theorem dataType_isSome (i : Inputs) (definitions : Table Schema) (before : List String)
    (result : Option FlowType × List String)
    (ok : (i.dataType definitions).run before = some result) :
    result.1.isSome = (!i.form.isEmpty || i.body.isSome) := by
  unfold Inputs.dataType at ok
  split at ok
  · rename_i form
    obtain ⟨type,_,equal⟩ := Typing.map_some _ _ _ _ ok
    simp [← equal,form]
  · rename_i form
    split at ok
    · rename_i a body
      obtain ⟨type,_,equal⟩ := Typing.map_some _ _ _ _ ok
      simp [← equal,body]
    · rename_i body
      cases ok
      simpa [body] using form

theorem signature_fits (i : Inputs) (definitions : Table Schema) (response : Option Schema)
    (before : List String) (types : Signature) (names : List String)
    (ok : (i.signature definitions response).run before = some (types, names)) : types.Fits i := by
  obtain ⟨path,_,pathOk,ok⟩ := Typing.bind_some _ _ _ _ ok
  have size := Typing.mapM_length _ _ _ _ pathOk
  -- Both ways of typing the query go on alike.
  have rest (query : Option FlowType) (between : List String)
      (asked : query.isSome = !i.query.isEmpty)
      (ok : (do let data ← i.dataType definitions
                let response ← flowTypeOrAny definitions response
                return (⟨path,query,data,response⟩ : Signature) : Typing Signature).run between =
        some (types, names)) : types.Fits i := by
    obtain ⟨data,_,dataOk,ok⟩ := Typing.bind_some _ _ _ _ ok
    obtain ⟨answer,_,_,ok⟩ := Typing.bind_some _ _ _ _ ok
    cases ok
    exact ⟨size,asked,dataType_isSome _ _ _ _ dataOk⟩
  dsimp only at ok
  split at ok
  · rename_i absent
    exact rest _ _ (by simp [absent]) ok
  · rename_i present
    obtain ⟨query,_,queryOk,ok⟩ := Typing.bind_some _ _ _ _ ok
    obtain ⟨type,_,rfl⟩ := Typing.map_some _ _ _ _ queryOk
    exact rest _ _ (by simpa using present) ok

theorem Signature.Fits.rename {s : Signature} {i : Inputs} (fits : s.Fits i)
    (renames : List (String × String)) : (s.rename renames).Fits i where
  path := by simp [Signature.rename,fits.path]
  query := by simp [Signature.rename,fits.query]
  data := by simp [Signature.rename,fits.data]

theorem textLe_iff (a b : String) : textLe a b = true ↔ a ≤ b := by
  rw [textLe,Bool.not_eq_true',decide_eq_false_iff_not]
  exact String.not_lt

/-- Texts in ascending order are the same for all orders of them. -/
theorem sortTexts_eq_iff (first second : List String) :
    sortTexts first = sortTexts second ↔ first.Perm second := by
  have sorted (texts : List String) : (sortTexts texts).Pairwise fun a b => textLe a b := by
    apply List.pairwise_mergeSort
    · intro a b c ab bc
      rw [textLe_iff] at *
      exact String.le_trans ab bc
    · intro a b
      simpa [textLe_iff] using String.le_total a b
  have kept (texts : List String) : (sortTexts texts).Perm texts := List.mergeSort_perm _ _
  constructor
  · intro equal
    exact (kept first).symm.trans (equal ▸ kept second)
  · intro perm
    apply List.Perm.eq_of_pairwise _ (sorted first) (sorted second)
    · exact (kept first).trans (perm.trans (kept second).symm)
    · intro a b _ _ ab ba
      exact String.le_antisymm ((textLe_iff a b).mp ab) ((textLe_iff b a).mp ba)

theorem sortTexts_of_perm {texts ascending : List String} (perm : texts.Perm ascending)
    (sorted : ascending.Pairwise fun a b => textLe a b) : sortTexts texts = ascending :=
  ((sortTexts_eq_iff texts ascending).mpr perm).trans (List.mergeSort_of_pairwise sorted)

theorem checkPlaceholders_ok_iff (e : Endpoint) (pieces : List Segment) (path : List Argument) :
    checkPlaceholders e pieces path = .ok () ↔
      (placeholders pieces).Perm (path.map (·.name)) := by
  rw [← sortTexts_eq_iff]
  unfold checkPlaceholders
  dsimp only
  split
  · rename_i equal
    simp [equal]
  · rename_i different
    simpa using different

/-- An endpoint is accepted where its placeholders are its path arguments and its types are found, and
its function is assembled from these. -/
theorem request_ok_iff (e : Endpoint) (definitions : Table Schema) (hostname : Option String)
    (r : RequestFunction) :
    e.request definitions hostname = .ok r ↔
      (placeholders (segments e.path)).Perm (e.inputs.path.map (·.name)) ∧
        ∃ types names, (e.inputs.signature definitions e.responseSchema).run [] =
          some (types, names) ∧ r = e.assemble hostname types names := by
  rw [← checkPlaceholders_ok_iff e]
  unfold Endpoint.request
  cases checked : checkPlaceholders e (segments e.path) e.inputs.path with
  | error why => simp [bind,Except.bind]
  | ok =>
    cases typed : (e.inputs.signature definitions e.responseSchema).run [] with
    | none => simp [bind,Except.bind,throw,throwThe,MonadExceptOf.throw]
    | some result =>
      obtain ⟨types,names⟩ := result
      simp [bind,Except.bind,pure,Except.pure,eq_comm]

theorem request_accepted (e : Endpoint) (definitions : Table Schema) (hostname : Option String)
    (perm : (placeholders (segments e.path)).Perm (e.inputs.path.map (·.name)))
    (typed : ((e.inputs.signature definitions e.responseSchema).run []).isSome = true) :
    ∃ r, e.request definitions hostname = .ok r := by
  obtain ⟨⟨types,names⟩,run⟩ := Option.isSome_iff_exists.mp typed
  exact ⟨_,(request_ok_iff _ _ _ _).mpr ⟨perm,types,names,run,rfl⟩⟩

theorem placeholders_nodup (pieces : List Segment) : (placeholders pieces).Nodup :=
  nodup_eraseDups _

theorem mem_placeholders (pieces : List Segment) (name : String) :
    name ∈ placeholders pieces ↔ Segment.placeholder name ∈ pieces := by
  simp only [placeholders,List.mem_eraseDups,List.mem_filterMap]
  constructor
  · rintro ⟨piece,member,found⟩
    cases piece <;> simp_all [Segment.placeholder?]
  · intro member
    exact ⟨_,member,rfl⟩

theorem importNames_nodup (names : List String) (own : Option String) :
    (importNames names own).Nodup :=
  nodup_eraseDups _

/-- What the function of an accepted endpoint is made of, where `types` are the types under the local
names of the definitions. -/
structure Assembled (e : Endpoint) (hostname : Option String) (types : Signature)
    (r : RequestFunction) : Prop where
  fits : types.Fits e.inputs
  placeholders : (placeholders (segments e.path)).Perm (e.inputs.path.map (·.name))
  distinct : r.typeImports.Nodup
  imports : r.module.imports = requestImports (!e.inputs.query.isEmpty) (!e.inputs.form.isEmpty)
    r.typeImports (localNames r.typeImports)
  aliases : r.module.aliases.map (·.name) = [responseAlias (localNames r.typeImports)]
  name : r.module.function.name = functionName e.id
  params : r.module.function.params = types.params (bindings e.inputs.path)
  body : r.module.function.body = .new pipeName [requestExpr e.method
    (urlExpr (segments e.path) (bindings e.inputs.path) (!e.inputs.query.isEmpty) hostname)
    types.data.isSome (!e.inputs.form.isEmpty)]

theorem request_assembled (e : Endpoint) (definitions : Table Schema) (hostname : Option String)
    (r : RequestFunction) (accepted : e.request definitions hostname = .ok r) :
    ∃ types, Assembled e hostname types r := by
  obtain ⟨perm,types,names,run,rfl⟩ := (request_ok_iff e definitions hostname r).mp accepted
  have fits := signature_fits _ _ _ _ _ _ run
  exact ⟨_,fits.rename _,perm,importNames_nodup names none,rfl,rfl,rfl,rfl,rfl⟩

/-- The names of the parameters: the identifiers of the path arguments, then `query` and `data` where
they are taken. -/
theorem params_names (s : Signature) (bound : List (String × String))
    (size : s.path.length = bound.length) :
    (s.params bound).map (·.name) = bound.map Prod.snd ++
      (if s.query.isSome then ["query"] else []) ++ (if s.data.isSome then ["data"] else []) := by
  have path : ((bound.zip s.path).map fun pair => pair.1.2) = bound.map Prod.snd := by
    have whole : (bound.zip s.path).map Prod.fst = bound := List.map_fst_zip (by omega)
    have first := congrArg (List.map Prod.snd) whole
    simpa [Function.comp_def] using first
  rcases s with ⟨types,query,data,response⟩
  simp only [Signature.params,List.map_append,List.map_map,Function.comp_def]
  rw [path]
  cases query <;> cases data <;> rfl

end FlowClient
