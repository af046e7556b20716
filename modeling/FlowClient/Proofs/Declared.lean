import FlowClient.Proofs.Scope

/-! Names declared at the top level of request modules. Imports and the response alias avoid each other;
the function takes its name from the operation and avoids reserved words only. -/

namespace FlowClient

section Assembled

variable {e : Endpoint} {hostname : Option String} {types : Signature} {r : RequestFunction}
  (made : Assembled e hostname types r)

include made

theorem Assembled.before_function_nodup :
    ((r.module.imports.flatMap fun i => i.specifiers.map (·.binding)) ++
      r.module.aliases.map (·.name)).Nodup := by
  rw [made.aliases,List.nodup_append']
  refine ⟨made.imported_nodup,by simp,?_⟩
  have absent := responseAlias_not_mem (localNames r.typeImports)
  rw [List.disjoint_singleton,made.imported,List.mem_append,not_or]
  rw [List.mem_append,not_or] at absent
  exact ⟨fun runtime => absent.1 (runtimeImports_subset _ _ _ runtime),absent.2⟩

end Assembled

/-- What a request module declares before its function is distinct. With the function it is so exactly
where the operation is named like no import from the runtime, no local name of a definition that it
refers to, and not like the alias. -/
theorem declared_nodup_iff (e : Endpoint) (definitions : Table Schema) (hostname : Option String)
    (r : RequestFunction) (accepted : e.request definitions hostname = .ok r) :
    ((r.module.imports.flatMap fun i => i.specifiers.map (·.binding)) ++
      r.module.aliases.map (·.name)).Nodup ∧
    (r.module.declared.Nodup ↔
      functionName e.id ∉ runtimeImports (!e.inputs.query.isEmpty) (!e.inputs.form.isEmpty) ∧
      functionName e.id ∉ localNames r.typeImports ∧
      functionName e.id ≠ responseAlias (localNames r.typeImports)) := by
  obtain ⟨types,made⟩ := request_assembled e definitions hostname r accepted
  have before := made.before_function_nodup
  refine ⟨before,?_⟩
  unfold Module.declared
  rw [List.nodup_append',made.name,List.disjoint_singleton,made.imported,made.aliases]
  rw [made.imported,made.aliases] at before
  simp only [before,List.nodup_singleton,true_and,List.mem_append,List.mem_singleton,not_or,
    and_assoc,ne_eq]

/-- An operation that takes the local name given to the definition it refers to. -/
def pipesEndpoint : Endpoint where
  method := .get
  path := "/pipes"
  id := "AjaxPipe_"
  arguments := []
  responseSchema := some { ref := some "#/definitions/AjaxPipe" }
  summary := none
  description := none

theorem declared_nodup_iff_pipes : ∃ r, pipesEndpoint.request [] none = .ok r ∧
    (r.module.declared.Nodup ↔
      functionName pipesEndpoint.id ∉
        runtimeImports (!pipesEndpoint.inputs.query.isEmpty) (!pipesEndpoint.inputs.form.isEmpty) ∧
      functionName pipesEndpoint.id ∉ localNames r.typeImports ∧
      functionName pipesEndpoint.id ≠ responseAlias (localNames r.typeImports)) := by
  obtain ⟨r,accepted⟩ := request_accepted pipesEndpoint [] none (by decide) (by decide +kernel)
  exact ⟨r,accepted,(declared_nodup_iff _ _ _ _ accepted).2⟩

/-- Its module imports the definition and exports the function under one name. -/
theorem declared_pipes_repeated :
    ∃ r, pipesEndpoint.request [] none = .ok r ∧ ¬ r.module.declared.Nodup := by
  refine ⟨pipesEndpoint.assemble none ⟨[],none,none,.named "AjaxPipe"⟩ ["AjaxPipe"],?_,
    by decide +kernel⟩
  exact (request_ok_iff _ _ _ _).mpr ⟨by decide,_,_,rfl,rfl⟩

end FlowClient
