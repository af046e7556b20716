import FlowClient.Flow.Printer
import FlowClient.Proofs.ArgumentTypes
import FlowClient.Proofs.Declared
import FlowClient.Proofs.Renaming
import Mathlib.Data.List.Zip

/-! Type names in request modules. Each one that an annotation or the response alias uses is imported once
from its definition, nothing else is imported as a type, and read through the imports the types are those
of what the endpoint takes and answers. -/

namespace FlowClient

/-- The name that a specifier binds, with the name it has where it comes from. -/
def Specifier.origin : Specifier → String × String
  | .default name => (name, name)
  | .named name => (name, name)
  | .aliased imported name => (name, imported)

def Module.origins (m : Module) : List (String × String) :=
  (m.imports.filter (·.kind = .type)).flatMap fun i => i.specifiers.map Specifier.origin

theorem importNames_none (names : List String) : importNames names none = names.eraseDups := by
  have all : names.filter (fun name => some name != none) = names :=
    List.filter_eq_self.mpr fun _ _ => rfl
  rw [importNames,all]

theorem typeImport_origin (definition name : String) :
    (typeImport definition name).specifiers.map Specifier.origin = [(name,definition)] := by
  unfold typeImport
  split
  · rename_i same
    simp [Specifier.origin,same]
  · simp [Specifier.origin]

theorem typeImports_origins (imports locals : List String) :
    ((List.zipWith typeImport imports locals).filter (·.kind = .type)).flatMap
      (fun i => i.specifiers.map Specifier.origin) = locals.zip imports := by
  induction imports generalizing locals with
  | nil => simp
  | cons definition imports ih =>
    cases locals with
    | nil => rfl
    | cons name locals =>
      rw [List.zipWith_cons_cons,List.filter_cons_of_pos (by simp [typeImport]),List.flatMap_cons,
        typeImport_origin,ih]
      rfl

theorem requestImports_origins (hasQuery hasForm : Bool) (imports locals : List String) :
    ((requestImports hasQuery hasForm imports locals).filter (·.kind = .type)).flatMap
      (fun i => i.specifiers.map Specifier.origin) =
        (requestType,requestType) :: locals.zip imports := by
  simp only [requestImports,List.filter_append,List.flatMap_append,typeImports_origins]
  cases hasQuery <;> cases hasForm <;> rfl

theorem requestImports_rest (hasQuery hasForm : Bool) (imports locals : List String) :
    ∃ rest, requestImports hasQuery hasForm imports locals =
      typeImport requestType requestType :: rest ∧
      ∀ i ∈ rest, (∃ helper ∈ [pipeName,queryHelper,formHelper], i = helperImport helper) ∨
        ∃ definition name, (definition,name) ∈ imports.zip locals ∧ i = typeImport definition name := by
  refine ⟨(if hasQuery then [helperImport queryHelper] else []) ++
    ((if hasForm then [helperImport formHelper] else []) ++
      ([helperImport pipeName] ++ List.zipWith typeImport imports locals)),
    by simp only [requestImports,List.append_assoc,List.cons_append,List.nil_append],?_⟩
  intro i member
  simp only [List.mem_append,List.mem_ite_nil_right,List.mem_singleton] at member
  rcases member with ⟨_,rfl⟩ | ⟨_,rfl⟩ | rfl | member
  · exact .inl ⟨queryHelper,by simp,rfl⟩
  · exact .inl ⟨formHelper,by simp,rfl⟩
  · exact .inl ⟨pipeName,by simp,rfl⟩
  · rw [← List.map_uncurry_zip_eq_zipWith] at member
    obtain ⟨⟨definition,name⟩,pair,rfl⟩ := List.mem_map.mp member
    exact .inr ⟨definition,name,pair,rfl⟩

theorem params_annotations (s : Signature) (bound : List (String × String))
    (size : s.path.length = bound.length) :
    (s.params bound).map Param.annotation = s.parameterTypes := by
  have path : (bound.zip s.path).map Prod.snd = s.path := List.map_snd_zip (by omega)
  rcases s with ⟨types,query,data,response⟩
  simp only [Signature.params,Signature.parameterTypes,List.map_append,List.map_map,
    Function.comp_def] at path ⊢
  rw [path]
  cases query <;> cases data <;> rfl

theorem rename_parameterTypes (s : Signature) (renames : List (String × String)) :
    (s.rename renames).parameterTypes = s.parameterTypes.map (·.rename renames) := by
  rcases s with ⟨types,query,data,response⟩
  cases query <;> cases data <;> simp [Signature.rename,Signature.parameterTypes]

section Origins

variable {imports : List String} (distinct : imports.Nodup)

include distinct

theorem local_origin {definition name : String}
    (pair : (definition,name) ∈ imports.zip (localNames imports)) :
    renamed ((requestType,requestType) :: (localNames imports).zip imports) name = definition := by
  have sound := localNames_localized imports distinct
  have member : (name,definition) ∈ (localNames imports).zip imports := by
    rw [← List.zip_swap]
    exact List.mem_map.mpr ⟨_,pair,rfl⟩
  have keys : (((requestType,requestType) :: (localNames imports).zip imports).map Prod.fst).Nodup := by
    rw [List.map_cons,List.map_fst_zip (Nat.le_of_eq sound.length_eq),List.nodup_cons]
    exact ⟨fun inside => sound.clear _ inside (by decide),sound.distinct⟩
  rw [renamed,lookup_of_mem keys (List.mem_cons_of_mem _ member),Option.getD_some]

/-- Every definition has one local name; renaming gives it and the imports lead back from it. -/
theorem definition_local {definition : String} (member : definition ∈ imports) :
    (definition,renamed (renamesOf imports (localNames imports)) definition) ∈
        imports.zip (localNames imports) ∧
      renamed ((requestType,requestType) :: (localNames imports).zip imports)
        (renamed (renamesOf imports (localNames imports)) definition) = definition := by
  have size := (localNames_localized imports distinct).length_eq
  obtain ⟨name,pair⟩ := exists_local size member
  rw [renamed_renamesOf distinct size pair]
  exact ⟨pair,local_origin distinct pair⟩

end Origins

theorem filter_binds {imports : List Import} {i : Import} {name : String}
    (distinct : (imports.flatMap fun i => i.specifiers.map (·.binding)).Nodup) (member : i ∈ imports)
    (binds : i.binds name = true) : imports.filter (·.binds name) = [i] := by
  have bound : name ∈ imports.flatMap fun i => i.specifiers.map (·.binding) :=
    List.mem_flatMap.mpr ⟨i,member,(binds_iff i name).mp binds⟩
  have once := countP_binds imports name distinct bound
  rw [List.countP_eq_length_filter,List.length_eq_one_iff] at once
  obtain ⟨only,single⟩ := once
  have inside : i ∈ imports.filter (·.binds name) := List.mem_filter.mpr ⟨member,binds⟩
  rw [single,List.mem_singleton] at inside
  rw [single,inside]

/-- What the type names of an accepted endpoint's module come from: `types` are the types of its schemas
and `names` their names. -/
structure Sourced (types : Signature) (names : List String) (r : RequestFunction) : Prop where
  noted : names = types.types.flatMap FlowType.names
  listed : r.typeImports = names.eraseDups
  parameters : r.module.function.params.map Param.annotation = types.parameterTypes.map
    (·.rename (renamesOf r.typeImports (localNames r.typeImports)))
  response : r.module.aliases.map (·.value) =
    [types.response.rename (renamesOf r.typeImports (localNames r.typeImports))]
  origins : r.module.origins =
    (requestType,requestType) :: (localNames r.typeImports).zip r.typeImports

theorem request_sourced (e : Endpoint) (definitions : Table Schema) (hostname : Option String)
    (r : RequestFunction) (accepted : e.request definitions hostname = .ok r) :
    ∃ types names, Sourced types names r ∧ types.Of definitions e.inputs ∧
      e.inputs.parameterSchemas.map (typeOrAny? definitions) = types.parameterTypes.map some ∧
      typeOrAny? definitions e.responseSchema = some types.response := by
  obtain ⟨_,types,names,run,rfl⟩ := (request_ok_iff e definitions hostname r).mp accepted
  obtain ⟨parameters,response,noted⟩ := signature_typed definitions _ _ run
  have fits := signature_fits _ _ _ _ _ _ run
  refine ⟨types,names,⟨noted,importNames_none names,?_,rfl,requestImports_origins _ _ _ _⟩,
    signature_of run,parameters,response⟩
  rw [← rename_parameterTypes]
  apply params_annotations
  have bound := congrArg List.length (bindings_bound e.inputs.path).names_eq
  simp only [List.length_map] at bound
  rw [bound]
  exact (fits.rename _).path

namespace Sourced

variable {types : Signature} {names : List String} {r : RequestFunction}
  (sourced : Sourced types names r)

include sourced

theorem distinct : r.typeImports.Nodup := by
  rw [sourced.listed]
  exact nodup_eraseDups names

theorem mem_imports {definition : String} : definition ∈ r.typeImports ↔ definition ∈ names := by
  rw [sourced.listed,List.mem_eraseDups]

theorem restored (type : FlowType) (member : type ∈ types.types) :
    (type.rename (renamesOf r.typeImports (localNames r.typeImports))).rename r.module.origins =
      type := by
  apply FlowType.rename_rename
  intro name inside
  have noted : name ∈ names := by
    rw [sourced.noted]
    exact List.mem_flatMap.mpr ⟨type,member,inside⟩
  rw [sourced.origins]
  exact (definition_local sourced.distinct (sourced.mem_imports.mpr noted)).2

section Made

variable {e : Endpoint} {hostname : Option String} {assembled : Signature}
  (made : Assembled e hostname assembled r)

include made

end Made

end Sourced

end FlowClient
