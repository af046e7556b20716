import FlowClient.Declaration
import FlowClient.Proofs.Endpoints
import FlowClient.Proofs.Signature

/-! Declarations of a document. There is one for each definition, in order, with its type and the names in it,
unless a definition has the name of the runtime's own type or has no type. -/

namespace FlowClient

section Declared

variable (definitions : Table Schema)

theorem declare?_eq (name : String) (s : Schema) :
    declare? definitions name s = (typeOf? definitions s).map fun type =>
      ⟨name, type, importNames type.names (some name)⟩ := by
  have noted := flowType_notes definitions s []
  unfold declare?
  rw [noted]
  cases typeOf? definitions s <;> rfl

theorem reserved_iff : (definitions.get? requestType).isSome = true ↔
    requestType ∈ definitions.names := by
  rw [Option.isSome_iff_ne_none,Ne,get?_eq_none,Classical.not_not]

theorem declarations_reserved (defined : requestType ∈ definitions.names) :
    declarations definitions = .error (.reservedDefinition requestType) := by
  rw [declarations,if_pos ((reserved_iff definitions).mpr defined)]

variable {definitions}

theorem declarations_ok {all : List Declaration} (made : declarations definitions = .ok all) :
    requestType ∉ definitions.names ∧
      (definitions.map fun entry => declare? definitions entry.1 entry.2) = all.map some := by
  unfold declarations at made
  split at made
  · cases made
  · rename_i free
    split at made
    · rename_i found
      cases made
      exact ⟨fun defined => free ((reserved_iff definitions).mpr defined),mapM_eq_some found⟩
    · cases made

theorem declarations_declared {all : List Declaration} (made : declarations definitions = .ok all) :
    List.Forall₂ (fun entry d => declare? definitions entry.1 entry.2 = some d) definitions all :=
  forall₂_of_map_eq (declarations_ok made).2

theorem declarations_names {all : List Declaration} (made : declarations definitions = .ok all) :
    all.map (·.name) = definitions.names := by
  symm
  apply map_eq_of_forall₂
  refine (declarations_declared made).imp ?_
  intro entry d declared
  obtain ⟨type,_,rfl⟩ := Option.map_eq_some_iff.mp ((declare?_eq _ _ _).symm.trans declared)
  rfl

theorem declarations_found_iff : (∃ all, declarations definitions = .ok all) ↔
    requestType ∉ definitions.names ∧ ∀ entry ∈ definitions, entry.2.Ends definitions := by
  have typed (entry : String × Schema) : (declare? definitions entry.1 entry.2).isSome = true ↔
      entry.2.Ends definitions := by
    rw [declare?_eq,Option.isSome_map,typeOf?_isSome_iff]
  constructor
  · rintro ⟨all,made⟩
    refine ⟨(declarations_ok made).1,fun entry member => (typed entry).mp ?_⟩
    obtain ⟨d,_,declared⟩ := exists_partner (declarations_declared made).flip member
    rw [declared]
    rfl
  · rintro ⟨free,ends⟩
    have every : (definitions.mapM fun entry => declare? definitions entry.1 entry.2).isSome = true :=
      (mapM_isSome _ _).mpr fun entry member => (typed entry).mpr (ends entry member)
    obtain ⟨all,found⟩ := Option.isSome_iff_exists.mp every
    refine ⟨all,?_⟩
    rw [declarations,if_neg (fun reserved => free ((reserved_iff definitions).mp reserved)),found]

end Declared

end FlowClient
