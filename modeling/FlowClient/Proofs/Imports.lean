import FlowClient.Proofs.Request

/-! The imports of request modules: which names they bring into scope, and that they bring each of
them in once. -/

namespace FlowClient

theorem binds_iff (i : Import) (name : String) :
    i.binds name = true ↔ name ∈ i.specifiers.map (·.binding) := by
  simp [Import.binds]

/-- Where all names that imports bring in differ, each is brought in by one import. -/
theorem countP_binds (imports : List Import) (name : String)
    (distinct : (imports.flatMap fun i => i.specifiers.map (·.binding)).Nodup)
    (member : name ∈ imports.flatMap fun i => i.specifiers.map (·.binding)) :
    imports.countP (·.binds name) = 1 := by
  induction imports with
  | nil => simp at member
  | cons i rest ih =>
    simp only [List.flatMap_cons] at distinct member
    obtain ⟨_,later,apart⟩ := List.nodup_append'.mp distinct
    rcases List.mem_append.mp member with here | there
    · have once : rest.countP (·.binds name) = 0 := by
        rw [List.countP_eq_zero]
        intro j inside bound
        exact apart here (List.mem_flatMap.mpr ⟨j,inside,(binds_iff j name).mp bound⟩)
      rw [List.countP_cons,once,(binds_iff i name).mpr here]
      rfl
    · have absent : ¬ i.binds name = true := fun bound => apart ((binds_iff i name).mp bound) there
      simpa [List.countP_cons,absent] using ih later there

theorem typeImport_bindings (name localName : String) :
    (typeImport name localName).specifiers.map (·.binding) = [localName] := by
  unfold typeImport
  split
  · rename_i same
    simp [Specifier.binding,same]
  · simp [Specifier.binding]

theorem typeImports_bindings (imports locals : List String)
    (size : locals.length = imports.length) :
    (List.zipWith typeImport imports locals).flatMap (fun i => i.specifiers.map (·.binding)) =
      locals := by
  induction imports generalizing locals with
  | nil =>
    rw [List.length_nil] at size
    simp [List.length_eq_zero_iff.mp size]
  | cons name imports ih =>
    cases locals with
    | nil => simp at size
    | cons localName locals =>
      rw [List.zipWith_cons_cons,List.flatMap_cons,typeImport_bindings,
        ih locals (by simpa using size)]
      rfl

def runtimeImports (hasQuery hasForm : Bool) : List String :=
  [requestType] ++ (if hasQuery then [queryHelper] else []) ++
    (if hasForm then [formHelper] else []) ++ [pipeName]

theorem runtimeImports_nodup (hasQuery hasForm : Bool) : (runtimeImports hasQuery hasForm).Nodup := by
  revert hasQuery hasForm
  decide

theorem runtimeImports_subset (hasQuery hasForm : Bool) :
    ∀ name ∈ runtimeImports hasQuery hasForm, name ∈ runtimeBindings := by
  revert hasQuery hasForm
  decide

theorem requestImports_bindings (hasQuery hasForm : Bool) (imports locals : List String)
    (size : locals.length = imports.length) :
    (requestImports hasQuery hasForm imports locals).flatMap
      (fun i => i.specifiers.map (·.binding)) = runtimeImports hasQuery hasForm ++ locals := by
  simp only [requestImports,List.flatMap_append,typeImports_bindings imports locals size]
  cases hasQuery <;> cases hasForm <;> rfl

section Assembled

variable {e : Endpoint} {hostname : Option String} {types : Signature} {r : RequestFunction}
  (made : Assembled e hostname types r)

include made

theorem Assembled.imported :
    (r.module.imports.flatMap fun i => i.specifiers.map (·.binding)) =
      runtimeImports (!e.inputs.query.isEmpty) (!e.inputs.form.isEmpty) ++
        localNames r.typeImports := by
  rw [made.imports]
  exact requestImports_bindings _ _ _ _ (localNames_localized _ made.distinct).length_eq

theorem Assembled.imported_nodup :
    (r.module.imports.flatMap fun i => i.specifiers.map (·.binding)).Nodup := by
  have sound := localNames_localized _ made.distinct
  rw [made.imported,List.nodup_append']
  refine ⟨runtimeImports_nodup _ _,sound.distinct,?_⟩
  intro name runtime own
  exact sound.clear name own (runtimeImports_subset _ _ name runtime)

end Assembled

end FlowClient
