import FlowClient.Proofs.Declarations

/-! Noted names. Typing a schema notes the named types of its result and nothing else, so a declaration imports exactly
the other definitions that its type names. -/

namespace FlowClient

/-- The declaration imports what its type names but itself, each name once, in the order in which they come first. -/
structure Declaration.ImportsNamed (d : Declaration) : Prop where
  distinct : d.imports.Nodup
  members : ∀ name, name ∈ d.imports ↔ name ∈ d.type.names ∧ name ≠ d.name
  order : d.imports.Pairwise fun a b => d.type.names.idxOf a < d.type.names.idxOf b

theorem importNames_own (names : List String) (own : String) :
    importNames names (some own) = names.eraseDups.filter (· ≠ own) := by
  have other : (fun name => some name != some own) = fun name => decide (name ≠ own) := by
    funext name
    by_cases same : name = own <;> simp [same]
  rw [importNames,other,eraseDups_filter]

theorem importsNamed_of_type (name : String) (type : FlowType) :
    (Declaration.mk name type (importNames type.names (some name))).ImportsNamed := by
  rw [importNames_own]
  refine ⟨(nodup_eraseDups _).filter _,?_,(eraseDups_order _).filter _⟩
  intro other
  rw [List.mem_filter,List.mem_eraseDups,decide_eq_true_eq]

/-- Where typing ends it adds the names in the type to what is noted, from left to right; and where all definitions
are declared, each declaration has the type of its definition and imports what this names. -/
theorem typing_notes_names (definitions : Table Schema) :
    (∀ s, s.Ends definitions → ∀ before, ∃ type,
      (flowType definitions s).run before = some (type,before ++ type.names)) ∧
    ∀ all, declarations definitions = .ok all → List.Forall₂ (fun entry d => d.name = entry.1 ∧
      typeOf? definitions entry.2 = some d.type ∧ d.ImportsNamed) definitions all := by
  refine ⟨fun s ends => ends.run,?_⟩
  intro all made
  refine (declarations_declared made).imp ?_
  intro entry d declared
  rw [declare?_eq] at declared
  obtain ⟨type,typed,rfl⟩ := Option.map_eq_some_iff.mp declared
  exact ⟨rfl,typed,importsNamed_of_type entry.1 type⟩

/-- A composition that names itself and another definition twice, and replaces a property whose schema is named
nowhere else. -/
def shopOrder : Schema where
  allOf := [{ ref := some "#/definitions/Record" },
    { properties := [("customer", { ref := some "#/definitions/Person" })] }]
  properties := [
    ("previous", { ref := some "#/definitions/Order" }),
    ("seller", { ref := some "#/definitions/Person" }),
    ("lines", { type := some "array", items := some { ref := some "#/definitions/Line" } })]

def shopDefinitions : Table Schema := [
  ("Order", shopOrder),
  ("Record", {
    type := some "object"
    properties := [("customer", { ref := some "#/definitions/Account" }),
      ("code", { type := some "string" })] }),
  ("Line", {
    type := some "object"
    properties := [("next", { ref := some "#/definitions/Line" }),
      ("order", { ref := some "#/definitions/Order" })] })]

theorem typing_notes_names_shop :
    shopOrder.Ends shopDefinitions ∧
      (∃ type, (flowType shopDefinitions shopOrder).run ["Line"] = some (type,"Line" :: type.names)) ∧
      ∃ all, declarations shopDefinitions = .ok all ∧
        all.map (·.imports) = [["Person","Line"],["Account"],["Order"]] ∧
        List.Forall₂ (fun entry d => d.name = entry.1 ∧
          typeOf? shopDefinitions entry.2 = some d.type ∧ d.ImportsNamed) shopDefinitions all := by
  obtain ⟨noted,declared⟩ := typing_notes_names shopDefinitions
  have ends : shopOrder.Ends shopDefinitions := (typeOf?_isSome_iff _ _).mp (by decide +kernel)
  have imports : (declarations shopDefinitions).toOption.map (·.map (·.imports)) =
      some [["Person","Line"],["Account"],["Order"]] := by decide +kernel
  refine ⟨ends,noted shopOrder ends ["Line"],?_⟩
  cases made : declarations shopDefinitions with
  | error why =>
    rw [made] at imports
    cases imports
  | ok all =>
    rw [made] at imports
    exact ⟨all,rfl,Option.some.inj imports,declared all made⟩

end FlowClient
