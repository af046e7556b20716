import FlowClient.Proofs.Naming
import FlowClient.Request

/-! The names that a request module binds: identifiers of path parameters, local names of imported
definitions and the alias of the response. Each loop that assigns them keeps what its steps keep. -/

namespace FlowClient

/-- What holds of path parameter names and the identifiers they are bound to, after any number of
them. -/
structure Bound (names : List String) (bound : List (String × String)) : Prop where
  names_eq : bound.map Prod.fst = names
  distinct : (bound.map Prod.snd).Nodup
  mended : ∀ pair ∈ bound, ∃ count, pair.2 = underscored (parameterIdentifier pair.1) count

theorem Bound.step {names : List String} {bound : List (String × String)} (sound : Bound names bound)
    (name : String) :
    Bound (names ++ [name])
      (bound ++ [(name, freshName (bound.map Prod.snd) (parameterIdentifier name))]) where
  names_eq := by simp [sound.names_eq]
  distinct := by
    rw [List.map_append,List.nodup_append']
    refine ⟨sound.distinct,by simp,?_⟩
    simpa using freshName_not_mem (bound.map Prod.snd) (parameterIdentifier name)
  mended := by
    intro pair member
    rcases List.mem_append.mp member with old | new
    · exact sound.mended pair old
    · obtain ⟨count,equal,_⟩ := freshName_found (bound.map Prod.snd) (parameterIdentifier name)
      rw [List.mem_singleton.mp new]
      exact ⟨count,equal⟩

theorem bindings_bound (path : List Argument) : Bound (path.map (·.name)) (bindings path) := by
  have run (rest : List Argument) : ∀ names bound, Bound names bound →
      Bound (names ++ rest.map (·.name)) (rest.foldl (fun bound a => bound ++
        [(a.name, freshName (bound.map Prod.snd) (parameterIdentifier a.name))]) bound) := by
    induction rest with
    | nil => intro names bound sound; simpa using sound
    | cons a rest ih =>
      intro names bound sound
      simpa [List.append_assoc] using ih _ _ (sound.step a.name)
  simpa [bindings] using run path [] [] ⟨rfl,by simp,by simp⟩

theorem Bound.free {names : List String} {bound : List (String × String)} (sound : Bound names bound)
    {pair : String × String} (member : pair ∈ bound) :
    pair.2 ∉ reservedWords ∧ pair.2 ∉ generatedNames := by
  obtain ⟨count,same⟩ := sound.mended pair member
  have free := parameterIdentifier_not_mem pair.1 count
  rw [← same] at free
  exact not_or.mp fun either => free (List.mem_append.mpr either)

theorem Bound.not_generated {names : List String} {bound : List (String × String)}
    (sound : Bound names bound) (identifier : String) (member : identifier ∈ bound.map Prod.snd) :
    identifier ∉ generatedNames := by
  obtain ⟨pair,inside,rfl⟩ := List.mem_map.mp member
  exact (sound.free inside).2

/-- What holds of the local names after the definitions in `done`, of all those in `imports`: a local
name is a definition's own one only where that definition is done. -/
structure Localized (imports done locals : List String) : Prop where
  length_eq : locals.length = done.length
  distinct : locals.Nodup
  clear : ∀ name ∈ locals, name ∉ runtimeBindings
  own : ∀ name ∈ locals, name ∈ imports → name ∈ done

theorem Localized.step {imports done locals : List String} (sound : Localized imports done locals)
    (name : String) (pending : name ∈ imports) (absent : name ∉ done) :
    Localized imports (done ++ [name]) (locals ++ [if runtimeBindings.contains name then
      freshName (runtimeBindings ++ imports ++ locals) (name ++ "_") else name]) := by
  -- The new local name meets nothing bound so far, no runtime name, and no other definition.
  have fresh : ∀ next, next = (if runtimeBindings.contains name then
      freshName (runtimeBindings ++ imports ++ locals) (name ++ "_") else name) →
      next ∉ locals ∧ next ∉ runtimeBindings ∧ (next ∈ imports → next = name) := by
    intro next chosen
    split at chosen
    · have free := freshName_not_mem (runtimeBindings ++ imports ++ locals) (name ++ "_")
      rw [← chosen] at free
      simp only [List.mem_append,not_or] at free
      exact ⟨free.2,free.1.1,fun member => absurd member free.1.2⟩
    · rename_i other
      subst next
      refine ⟨fun member => absent (sound.own name member pending),by simpa using other,fun _ => rfl⟩
  generalize chosen : (if runtimeBindings.contains name then
    freshName (runtimeBindings ++ imports ++ locals) (name ++ "_") else name) = next at *
  obtain ⟨unbound,clear,own⟩ := fresh next rfl
  refine ⟨by simp [sound.length_eq],?_,?_,?_⟩
  · rw [List.nodup_append']
    exact ⟨sound.distinct,by simp,by simpa using unbound⟩
  · intro taken member
    rcases List.mem_append.mp member with old | new
    · exact sound.clear taken old
    · rw [List.mem_singleton.mp new]
      exact clear
  · intro taken member inside
    rcases List.mem_append.mp member with old | new
    · exact List.mem_append_left _ (sound.own taken old inside)
    · rw [List.mem_singleton.mp new] at inside ⊢
      simp [own inside]

theorem localNames_localized (imports : List String) (distinct : imports.Nodup) :
    Localized imports imports (localNames imports) := by
  have run (rest : List String) : ∀ done locals, done ++ rest = imports →
      Localized imports done locals →
      Localized imports imports (rest.foldl (fun locals name => locals ++
        [if runtimeBindings.contains name then
          freshName (runtimeBindings ++ imports ++ locals) (name ++ "_") else name]) locals) := by
    induction rest with
    | nil => intro done locals all sound; simpa [← all] using sound
    | cons name rest ih =>
      intro done locals all sound
      have apart : (done ++ name :: rest).Nodup := all ▸ distinct
      have pending : name ∈ imports := by simp [← all]
      have absent : name ∉ done := by
        intro member
        exact (List.nodup_append.mp apart).2.2 name member name (by simp) rfl
      exact ih (done ++ [name]) _ (by simpa using all) (sound.step name pending absent)
  exact run imports [] [] rfl ⟨rfl,by simp,by simp,by simp⟩

theorem responseAlias_not_mem (locals : List String) :
    responseAlias locals ∉ runtimeBindings ++ locals :=
  freshName_not_mem _ _

end FlowClient
