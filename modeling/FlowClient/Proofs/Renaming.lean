import FlowClient.Proofs.Bindings
import FlowClient.Proofs.Table
import FlowClient.Proofs.Typing

/-! Renaming of types. It acts on the named types one by one, the local names of definitions are told
apart by it, and what the imports say of them leads back. -/

namespace FlowClient

def renamed (renames : List (String × String)) (name : String) : String :=
  (renames.lookup name).getD name

mutual

theorem FlowType.names_rename (renames : List (String × String)) :
    ∀ type : FlowType, (type.rename renames).names = type.names.map (renamed renames)
  | .named _ => rfl
  | .union members => namesAll_rename renames members
  | .array element => FlowType.names_rename renames element
  | .generic _ args => namesAll_rename renames args
  | .exact properties => namesProperties_rename renames properties
  | .any | .string | .number | .boolean | .literal _ | .openObject => rfl

theorem namesAll_rename (renames : List (String × String)) : ∀ types : List FlowType,
    FlowType.namesAll (FlowType.renameAll renames types) =
      (FlowType.namesAll types).map (renamed renames)
  | [] => rfl
  | type :: rest => by
    rw [FlowType.renameAll,FlowType.namesAll,FlowType.namesAll,List.map_append,
      FlowType.names_rename renames type,namesAll_rename renames rest]

theorem namesProperties_rename (renames : List (String × String)) :
    ∀ properties : List (Property FlowType),
      FlowType.namesProperties (FlowType.renameProperties renames properties) =
        (FlowType.namesProperties properties).map (renamed renames)
  | [] => rfl
  | ⟨name, value, optional⟩ :: rest => by
    rw [FlowType.renameProperties,FlowType.namesProperties,FlowType.namesProperties,List.map_append,
      FlowType.names_rename renames value,namesProperties_rename renames rest]

end

section Back

variable {there back : List (String × String)}

mutual

/-- Where each name of a type comes back, the type does. -/
theorem FlowType.rename_rename : ∀ type : FlowType,
    (∀ name ∈ type.names, renamed back (renamed there name) = name) →
      (type.rename there).rename back = type
  | .named name, restored => congrArg FlowType.named (restored name (by simp [FlowType.names]))
  | .union members, restored => congrArg FlowType.union (renameAll_renameAll members restored)
  | .array element, restored => congrArg FlowType.array (FlowType.rename_rename element restored)
  | .generic name args, restored =>
    congrArg (FlowType.generic name) (renameAll_renameAll args restored)
  | .exact properties, restored =>
    congrArg FlowType.exact (renameProperties_renameProperties properties restored)
  | .any, _ | .string, _ | .number, _ | .boolean, _ | .literal _, _ | .openObject, _ => rfl

theorem renameAll_renameAll : ∀ types : List FlowType,
    (∀ name ∈ FlowType.namesAll types, renamed back (renamed there name) = name) →
      FlowType.renameAll back (FlowType.renameAll there types) = types
  | [], _ => rfl
  | type :: rest, restored => by
    rw [FlowType.namesAll,List.forall_mem_append] at restored
    rw [FlowType.renameAll,FlowType.renameAll,FlowType.rename_rename type restored.1,
      renameAll_renameAll rest restored.2]

theorem renameProperties_renameProperties : ∀ properties : List (Property FlowType),
    (∀ name ∈ FlowType.namesProperties properties, renamed back (renamed there name) = name) →
      FlowType.renameProperties back (FlowType.renameProperties there properties) = properties
  | [], _ => rfl
  | ⟨name, value, optional⟩ :: rest, restored => by
    rw [FlowType.namesProperties,List.forall_mem_append] at restored
    rw [FlowType.renameProperties,FlowType.renameProperties,FlowType.rename_rename value restored.1,
      renameProperties_renameProperties rest restored.2]

end

end Back

section Local

variable {imports locals : List String}

theorem exists_local (size : locals.length = imports.length) {definition : String}
    (member : definition ∈ imports) : ∃ name, (definition,name) ∈ imports.zip locals := by
  obtain ⟨place,bound,rfl⟩ := List.mem_iff_getElem.mp member
  refine ⟨locals[place],List.mem_iff_getElem.mpr ⟨place,?_,List.getElem_zip⟩⟩
  rw [List.length_zip]
  omega

/-- The renames give each definition its local name, also where the two are one. -/
theorem renamed_renamesOf (distinct : imports.Nodup) (size : locals.length = imports.length)
    {definition name : String} (pair : (definition,name) ∈ imports.zip locals) :
    renamed (renamesOf imports locals) definition = name := by
  have keys : ((imports.zip locals).map Prod.fst).Nodup := by
    rw [List.map_fst_zip (by omega)]
    exact distinct
  have fewer : ((renamesOf imports locals).map Prod.fst).Nodup :=
    keys.sublist (List.filter_sublist.map Prod.fst)
  unfold renamed
  by_cases same : definition = name
  · cases found : (renamesOf imports locals).lookup definition with
    | none => exact same
    | some other =>
      have member := List.mem_of_mem_filter (mem_of_lookup found)
      have equal := (lookup_of_mem keys member).symm.trans (lookup_of_mem keys pair)
      exact Option.some.inj equal
  · have member : (definition,name) ∈ renamesOf imports locals :=
      List.mem_filter.mpr ⟨pair,by simpa using same⟩
    rw [lookup_of_mem fewer member]
    rfl

end Local

end FlowClient
