import FlowClient.Proofs.Table
import FlowClient.Typing
import Mathlib.Logic.Relation

/-! Typing of schemas. It notes the named types of its result from left to right, its result hangs on the
types of the next schemas only, and there is one exactly where going on from schema to schema ends. -/

namespace FlowClient

def Schema.next (definitions : Table Schema) (s : Schema) : List Schema :=
  match s.kind with
  | .composite parts => (mergedProperties (sources definitions s parts)).map Prod.snd
  | .object => s.properties.map Prod.snd
  | .array items => items.toList
  | _ => []

/-- The schemas that typing a schema meets, itself among them. -/
def Schema.Meets (definitions : Table Schema) : Schema → Schema → Prop :=
  Relation.ReflTransGen fun s t => t ∈ s.next definitions

/-- Typing goes on from the schema through no endless chain of next schemas. -/
def Schema.Ends (definitions : Table Schema) (s : Schema) : Prop :=
  Acc (fun t s => t ∈ s.next definitions) s

/-- The exact object of these properties, given the types of the schemas inside. -/
def exactType? (inner : Schema → Option FlowType) (properties : Table Schema)
    (required : List String) : Option FlowType :=
  (properties.mapM fun entry => (inner entry.2).map fun type =>
    (⟨entry.1, type, !required.contains entry.1⟩ : Property FlowType)).map .exact

def Schema.typeFrom? (definitions : Table Schema) (inner : Schema → Option FlowType) (s : Schema) :
    Option FlowType :=
  match s.kind with
  | .reference name => some (.named name)
  | .composite parts =>
    exactType? inner (mergedProperties (sources definitions s parts))
      (mergedRequired (sources definitions s parts))
  | .object => if s.properties.isEmpty then some .openObject else exactType? inner s.properties s.required
  | .array items => (items.elim (some .any) inner).map .array
  | .string values => some (stringType values)
  | .number => some .number
  | .boolean => some .boolean
  | .any => some .any

def typeWithin? (definitions : Table Schema) (levels : Nat) (s : Schema) : Option FlowType :=
  ((flowTypeWithin definitions levels s).run []).map Prod.fst

def typeOf? (definitions : Table Schema) (s : Schema) : Option FlowType :=
  ((flowType definitions s).run []).map Prod.fst

section Names

theorem namesAll_eq (types : List FlowType) :
    FlowType.namesAll types = types.flatMap FlowType.names := by
  induction types with
  | nil => rfl
  | cons type types ih => rw [FlowType.namesAll,ih,List.flatMap_cons]

theorem namesProperties_eq (properties : List (Property FlowType)) :
    FlowType.namesProperties properties = properties.flatMap fun p => p.value.names := by
  induction properties with
  | nil => rfl
  | cons property properties ih =>
    obtain ⟨name,value,optional⟩ := property
    rw [FlowType.namesProperties,ih,List.flatMap_cons]

theorem stringType_names (values : List Json) : (stringType values).names = [] := by
  unfold stringType
  dsimp only
  split
  · rfl
  · rw [FlowType.names,namesAll_eq,List.flatMap_eq_nil_iff]
    intro type member
    obtain ⟨text,_,rfl⟩ := List.mem_map.mp member
    rfl

end Names

/-- The typing has this result and notes its names, whatever is noted before. -/
def Typing.Notes {α : Type} (names : α → List String) (x : Typing α) (result : Option α) : Prop :=
  ∀ before, x.run before = result.map fun a => (a, before ++ names a)

namespace Typing.Notes

variable {α β : Type} {names : α → List String} {namesOut : β → List String}

theorem pure (a : α) (silent : names a = []) : Notes names (Pure.pure a) (some a) := by
  intro before
  simp only [StateT.run_pure,Option.map_some,silent,List.append_nil]
  rfl

theorem map {x : Typing α} {result : Option α} (notes : Notes names x result) (f : α → β)
    (same : ∀ a, namesOut (f a) = names a) : Notes namesOut (f <$> x) (result.map f) := by
  intro before
  rw [StateT.run_map,notes before]
  cases result <;> simp [same]

theorem mapM {ι : Type} {f : ι → Typing α} {g : ι → Option α} (items : List ι)
    (each : ∀ i ∈ items, Notes names (f i) (g i)) :
    Notes (fun all => all.flatMap names) (items.mapM f) (items.mapM g) := by
  induction items with
  | nil => exact Notes.pure [] rfl
  | cons item items ih =>
    intro before
    have first := each item (by simp) before
    rw [List.mapM_cons,List.mapM_cons,StateT.run_bind,first]
    cases g item with
    | none => rfl
    | some a =>
      have rest := ih (fun i member => each i (by simp [member])) (before ++ names a)
      simp only [Option.map_some,Option.bind_eq_bind,Option.bind_some,StateT.run_bind]
      rw [rest]
      cases items.mapM g with
      | none => rfl
      | some all => simp

end Typing.Notes

theorem exactObject_notes {inner : Schema → Typing FlowType} {result : Schema → Option FlowType}
    (properties : Table Schema) (required : List String)
    (notes : ∀ s, Typing.Notes FlowType.names (inner s) (result s)) :
    Typing.Notes FlowType.names (exactObject inner properties required)
      (exactType? result properties required) := by
  have fields : Typing.Notes (fun all => all.flatMap fun p => p.value.names)
      (properties.mapM fun entry => (fun type =>
        (⟨entry.1,type,!required.contains entry.1⟩ : Property FlowType)) <$> inner entry.2)
      (properties.mapM fun entry => (result entry.2).map fun type =>
        (⟨entry.1,type,!required.contains entry.1⟩ : Property FlowType)) :=
    Typing.Notes.mapM properties fun entry _ => (notes entry.2).map _ fun _ => rfl
  exact fields.map FlowType.exact fun all => by rw [FlowType.names,namesProperties_eq]

theorem typeFrom_notes (definitions : Table Schema) (levels : Nat) (s : Schema)
    (notes : ∀ t, Typing.Notes FlowType.names (flowTypeWithin definitions levels t)
      (typeWithin? definitions levels t)) :
    Typing.Notes FlowType.names (flowTypeWithin definitions (levels + 1) s)
      (s.typeFrom? definitions (typeWithin? definitions levels)) := by
  cases kind : s.kind with
  | reference name =>
    intro before
    simp only [flowTypeWithin,Schema.typeFrom?,kind]
    rfl
  | composite parts =>
    simp only [flowTypeWithin,Schema.typeFrom?,kind]
    exact exactObject_notes _ _ notes
  | object =>
    simp only [flowTypeWithin,Schema.typeFrom?,kind]
    split
    · exact Typing.Notes.pure _ rfl
    · exact exactObject_notes _ _ notes
  | array items =>
    simp only [flowTypeWithin,Schema.typeFrom?,kind]
    cases items with
    | none => exact Typing.Notes.pure _ rfl
    | some element => exact (notes element).map FlowType.array fun _ => rfl
  | string values =>
    simp only [flowTypeWithin,Schema.typeFrom?,kind]
    exact Typing.Notes.pure _ (stringType_names _)
  | number | boolean | any =>
    simp only [flowTypeWithin,Schema.typeFrom?,kind]
    exact Typing.Notes.pure _ rfl

theorem Typing.Notes.result_eq {α : Type} {names : α → List String} {x : Typing α}
    {result : Option α} (notes : Typing.Notes names x result) :
    (x.run []).map Prod.fst = result := by
  rw [notes []]
  cases result <;> rfl

/-- Within any number of levels, typing notes the names of the type. -/
theorem flowTypeWithin_notes (definitions : Table Schema) (levels : Nat) (s : Schema) :
    Typing.Notes FlowType.names (flowTypeWithin definitions levels s)
      (typeWithin? definitions levels s) := by
  induction levels generalizing s with
  | zero => intro before; rfl
  | succ levels ih =>
    have notes := typeFrom_notes definitions levels s ih
    rw [typeWithin?,notes.result_eq]
    exact notes

theorem flowType_notes (definitions : Table Schema) (s : Schema) :
    Typing.Notes FlowType.names (flowType definitions s) (typeOf? definitions s) :=
  flowTypeWithin_notes definitions _ s

theorem typeWithin?_succ (definitions : Table Schema) (levels : Nat) (s : Schema) :
    typeWithin? definitions (levels + 1) s =
      s.typeFrom? definitions (typeWithin? definitions levels) :=
  (typeFrom_notes definitions levels s (flowTypeWithin_notes definitions levels)).result_eq

section Next

variable {definitions : Table Schema}

theorem mapM_isSome {ι α : Type} (f : ι → Option α) (items : List ι) :
    (items.mapM f).isSome = true ↔ ∀ i ∈ items, (f i).isSome = true := by
  induction items with
  | nil => simp
  | cons item items ih =>
    rw [List.mapM_cons,List.forall_mem_cons,← ih]
    cases f item with
    | none => simp
    | some a => cases items.mapM f <;> simp

theorem mapM_congr {m : Type → Type} [Monad m] [LawfulMonad m] {ι α : Type} {f g : ι → m α}
    (items : List ι) (same : ∀ i ∈ items, f i = g i) : items.mapM f = items.mapM g := by
  induction items with
  | nil => simp
  | cons item items ih =>
    rw [List.mapM_cons,List.mapM_cons,same item (by simp),ih fun i member => same i (by simp [member])]

theorem exactType?_isSome (inner : Schema → Option FlowType) (properties : Table Schema)
    (required : List String) : (exactType? inner properties required).isSome = true ↔
      ∀ t ∈ properties.map Prod.snd, (inner t).isSome = true := by
  rw [exactType?,Option.isSome_map,mapM_isSome]
  simp only [Option.isSome_map,List.forall_mem_map]

theorem exactType?_congr {inner other : Schema → Option FlowType} (properties : Table Schema)
    (required : List String) (same : ∀ t ∈ properties.map Prod.snd, inner t = other t) :
    exactType? inner properties required = exactType? other properties required := by
  rw [exactType?,exactType?]
  congr 1
  apply mapM_congr
  intro entry member
  rw [same entry.2 (List.mem_map_of_mem member)]

theorem typeFrom?_isSome (inner : Schema → Option FlowType) (s : Schema) :
    (s.typeFrom? definitions inner).isSome = true ↔
      ∀ t ∈ s.next definitions, (inner t).isSome = true := by
  cases kind : s.kind with
  | composite parts =>
    simp only [Schema.typeFrom?,Schema.next,kind]
    exact exactType?_isSome _ _ _
  | object =>
    simp only [Schema.typeFrom?,Schema.next,kind]
    split
    · rename_i empty
      simp [List.isEmpty_iff.mp empty]
    · exact exactType?_isSome _ _ _
  | array items =>
    simp only [Schema.typeFrom?,Schema.next,kind,Option.isSome_map]
    cases items <;> simp
  | reference | string | number | boolean | any => simp [Schema.typeFrom?,Schema.next,kind]

theorem typeFrom?_congr {inner other : Schema → Option FlowType} (s : Schema)
    (same : ∀ t ∈ s.next definitions, inner t = other t) :
    s.typeFrom? definitions inner = s.typeFrom? definitions other := by
  cases kind : s.kind with
  | composite parts =>
    simp only [Schema.typeFrom?,Schema.next,kind] at same ⊢
    exact exactType?_congr _ _ same
  | object =>
    simp only [Schema.typeFrom?,Schema.next,kind] at same ⊢
    rw [exactType?_congr _ _ same]
  | array items =>
    simp only [Schema.typeFrom?,Schema.next,kind] at same ⊢
    cases items with
    | none => rfl
    | some element => rw [Option.elim_some,Option.elim_some,same element (by simp)]
  | reference | string | number | boolean | any => simp only [Schema.typeFrom?,kind]

end Next

end FlowClient
