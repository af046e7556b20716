import FlowClient.Proofs.Levels
import FlowClient.Proofs.Signature

/-! Compositions. The object of a composition has the properties of all its sources: each at the place where it
is declared first, with the type from the source that declares it last, and required where any source requires
it. -/

namespace FlowClient

/-- What the parts of a composition stand for: a part for itself, or for the definition that it refers to. A part
that refers to no definition stands for nothing. -/
inductive PartSources (definitions : Table Schema) : List Schema → List Schema → Prop
  | nil : PartSources definitions [] []
  | inline {part : Schema} {parts given : List Schema} (own : part.definitionName? = none)
      (rest : PartSources definitions parts given) : PartSources definitions (part :: parts) (part :: given)
  | defined {part d : Schema} {name : String} {parts given : List Schema}
      (refers : part.definitionName? = some name) (found : definitions.get? name = some d)
      (rest : PartSources definitions parts given) : PartSources definitions (part :: parts) (d :: given)
  | missing {part : Schema} {name : String} {parts given : List Schema}
      (refers : part.definitionName? = some name) (absent : name ∉ definitions.names)
      (rest : PartSources definitions parts given) : PartSources definitions (part :: parts) given

/-- The last source that declares the property declares it by this schema. -/
def DeclaredLast (all : List Schema) (name : String) (t : Schema) : Prop :=
  ∃ before source after, all = before ++ source :: after ∧ (name,t) ∈ source.properties ∧
    ∀ later ∈ after, name ∉ Table.names later.properties

structure Merged (definitions : Table Schema) (all : List Schema)
    (fields : List (Property FlowType)) : Prop where
  names : fields.map (·.name) = (all.flatMap fun source => Table.names source.properties).eraseDups
  distinct : (fields.map (·.name)).Nodup
  types : ∀ field ∈ fields,
    ∃ t, DeclaredLast all field.name t ∧ typeOf? definitions t = some field.value
  optional : ∀ field ∈ fields, field.optional = true ↔ ∀ source ∈ all, field.name ∉ source.required

section Sources

variable {definitions : Table Schema}

theorem partSources_iff {parts given : List Schema} :
    PartSources definitions parts given ↔ given = parts.filterMap (sourceOf? definitions) := by
  constructor
  · intro sources
    induction sources with
    | nil => rfl
    | inline own _ ih => rw [List.filterMap_cons_some (by rw [sourceOf?,own]),ih]
    | defined refers found _ ih => rw [List.filterMap_cons_some (by rw [sourceOf?,refers]; exact found),ih]
    | missing refers absent _ ih =>
      rw [List.filterMap_cons_none (by rw [sourceOf?,refers]; exact get?_eq_none.mpr absent),ih]
  · rintro rfl
    induction parts with
    | nil => exact .nil
    | cons part parts ih =>
      cases refers : part.definitionName? with
      | none =>
        rw [List.filterMap_cons_some (by rw [sourceOf?,refers])]
        exact .inline refers ih
      | some name =>
        cases found : definitions.get? name with
        | none =>
          rw [List.filterMap_cons_none (by rw [sourceOf?,refers]; exact found)]
          exact .missing refers (get?_eq_none.mp found) ih
        | some d =>
          rw [List.filterMap_cons_some (by rw [sourceOf?,refers]; exact found)]
          exact .defined refers found ih

theorem declaredLast_of_lookup {all : List Schema} {name : String} {t : Schema}
    (found : (all.flatMap (·.properties)).reverse.lookup name = some t) : DeclaredLast all name t := by
  -- The last source is asked first, and only then those before it.
  induction all using List.reverseRecOn with
  | nil => cases found
  | append_singleton all source ih =>
    rw [List.flatMap_append,List.flatMap_singleton,List.reverse_append,List.lookup_append,
      Option.or_eq_some_iff] at found
    rcases found with here | ⟨none,earlier⟩
    · exact ⟨all,source,[],rfl,List.mem_reverse.mp (mem_of_lookup here),List.forall_mem_nil _⟩
    · obtain ⟨before,other,after,rfl,declared,undeclared⟩ := ih earlier
      refine ⟨before,other,after ++ [source],by simp,declared,?_⟩
      intro later member
      rcases List.mem_append.mp member with between | last
      · exact undeclared later between
      · have absent : name ∉ Table.names source.properties.reverse := get?_eq_none.mp none
        obtain rfl := List.mem_singleton.mp last
        simpa [Table.names] using absent

theorem mem_mergedProperties {all : List Schema} {name : String} {t : Schema} :
    (name,t) ∈ mergedProperties all ↔ (all.flatMap (·.properties)).reverse.lookup name = some t :=
  Table.mem_ofEntries _ name t

theorem mergedProperties_names (all : List Schema) : (mergedProperties all).names =
    (all.flatMap fun source => Table.names source.properties).eraseDups := by
  rw [mergedProperties,Table.names_ofEntries,Table.names,List.map_flatMap]
  rfl

end Sources

theorem exactType?_fields {inner : Schema → Option FlowType} {properties : Table Schema}
    {required : List String} {type : FlowType} (typed : exactType? inner properties required = some type) :
    ∃ fields, type = .exact fields ∧ List.Forall₂ (fun entry field => field.name = entry.1 ∧
      inner entry.2 = some field.value ∧ field.optional = !required.contains entry.1) properties fields := by
  obtain ⟨fields,found,rfl⟩ := Option.map_eq_some_iff.mp typed
  refine ⟨fields,rfl,?_⟩
  refine (forall₂_of_map_eq (mapM_eq_some found)).imp ?_
  intro entry field made
  obtain ⟨part,here,rfl⟩ := Option.map_eq_some_iff.mp made
  exact ⟨rfl,here,rfl⟩

theorem merged_of_fields {definitions : Table Schema} {all : List Schema}
    {fields : List (Property FlowType)}
    (each : List.Forall₂ (fun entry field => field.name = entry.1 ∧
      typeOf? definitions entry.2 = some field.value ∧
      field.optional = !(mergedRequired all).contains entry.1) (mergedProperties all) fields) :
    Merged definitions all fields := by
  have names : (mergedProperties all).names = fields.map (·.name) :=
    map_eq_of_forall₂ (each.imp fun _ _ made => made.1.symm)
  rw [mergedProperties_names] at names
  refine ⟨names.symm,names ▸ nodup_eraseDups _,?_,?_⟩
  · intro field member
    obtain ⟨⟨name,t⟩,present,rfl,typed,_⟩ := exists_partner each member
    exact ⟨t,declaredLast_of_lookup (mem_mergedProperties.mp present),typed⟩
  · intro field member
    obtain ⟨⟨name,t⟩,_,rfl,_,optional⟩ := exists_partner each member
    rw [optional]
    simp [mergedRequired]

/-- A composition has the object that its sources come to together: its parts in order and itself last. -/
theorem composition_merged {definitions : Table Schema} {s : Schema} (own : s.definitionName? = none)
    (composed : s.allOf ≠ []) (ends : s.Ends definitions) :
    ∃ given fields, (∀ all, PartSources definitions s.allOf all ↔ all = given) ∧
      typeOf? definitions s = some (.exact fields) ∧ Merged definitions (given ++ [s]) fields := by
  have kind : s.kind = .composite s.allOf := by simp [Schema.kind,own,composed]
  obtain ⟨type,typed⟩ := Option.isSome_iff_exists.mp ((typeOf?_isSome_iff definitions s).mpr ends)
  have made := typed
  rw [typeOf?_eq_typeFrom?,Schema.typeFrom?,kind] at made
  obtain ⟨fields,rfl,each⟩ := exactType?_fields made
  exact ⟨_,fields,fun _ => partSources_iff,typed,merged_of_fields each⟩

def staffDefinitions : Table Schema := [
  ("Person", {
    type := some "object"
    required := ["id"]
    properties := [("id", { type := some "integer" }), ("name", { type := some "string" })] }),
  ("Worker", {
    allOf := [{ ref := some "#/definitions/Person" }]
    required := ["desk", "name"]
    properties := [("desk", { ref := some "#/definitions/Desk" }), ("id", { type := some "string" })] })]

/-- Parts of each kind, a property that comes three times, and one that is required where it is not declared. -/
def managerSchema : Schema where
  allOf := [
    { ref := some "#/definitions/Worker" },
    { ref := some "#/definitions/Ghost", properties := [("ghost", { type := some "string" })] },
    { properties := [("team", { type := some "array", items := some {
        ref := some "#/definitions/Worker" } }), ("id", { type := some "boolean" })] }]
  required := ["team"]
  properties := [("name", { type := some "string" }), ("id", { allOf := [
    { ref := some "#/definitions/Person" }] })]

theorem composition_merged_manager :
    managerSchema.definitionName? = none ∧ managerSchema.allOf ≠ [] ∧
      managerSchema.Ends staffDefinitions ∧
      ∃ given fields, (∀ all, PartSources staffDefinitions managerSchema.allOf all ↔ all = given) ∧
        typeOf? staffDefinitions managerSchema = some (.exact fields) ∧
        Merged staffDefinitions (given ++ [managerSchema]) fields := by
  have own : managerSchema.definitionName? = none := by decide
  have composed : managerSchema.allOf ≠ [] := List.cons_ne_nil _ _
  have ends : managerSchema.Ends staffDefinitions :=
    (typeOf?_isSome_iff _ _).mp (by decide +kernel)
  exact ⟨own,composed,ends,composition_merged own composed ends⟩

/-- The same composition read off: what the definition is composed of itself is not taken. -/
example : ((typeOf? staffDefinitions managerSchema).map fun type => match type with
    | .exact fields => fields.map fun field => (field.name,field.optional)
    | _ => []) = some [("desk",false), ("id",true), ("team",false), ("name",false)] := by
  decide +kernel

end FlowClient
