import FlowClient.Proofs.Levels
import FlowClient.Proofs.Request
import Mathlib.Data.List.ReduceOption

/-! Types of signatures: one for the schema of each parameter, in order, and one for the response. They
are found where all these schemas have types, and their names are noted from left to right. -/

namespace FlowClient

/-- The schema of the data: of all form data together, else of the body. -/
def Inputs.dataSchemas (i : Inputs) : List (Option Schema) :=
  if !i.form.isEmpty then [some (argumentsSchema i.form)] else (i.body.map (·.schema)).toList

/-- The schemas of the parameters in order. A parameter that is described by none has any type. -/
def Inputs.parameterSchemas (i : Inputs) : List (Option Schema) :=
  i.path.map (·.schema) ++
    (if i.query.isEmpty then [] else [some (argumentsSchema i.query)]) ++ i.dataSchemas

def Endpoint.schemas (e : Endpoint) : List Schema :=
  (e.inputs.parameterSchemas ++ [e.responseSchema]).reduceOption

theorem mem_schemas {e : Endpoint} {s : Schema} :
    s ∈ e.schemas ↔ some s ∈ e.inputs.parameterSchemas ++ [e.responseSchema] :=
  List.reduceOption_mem_iff

def Signature.parameterTypes (s : Signature) : List FlowType :=
  s.path ++ s.query.toList ++ s.data.toList

def Signature.types (s : Signature) : List FlowType := s.parameterTypes ++ [s.response]

def typeOrAny? (definitions : Table Schema) (schema : Option Schema) : Option FlowType :=
  schema.elim (some .any) (typeOf? definitions)

theorem Typing.Notes.run_eq_some {α : Type} {names : α → List String} {x : Typing α}
    {result : Option α} (notes : Typing.Notes names x result) {before after : List String} {a : α}
    (ok : x.run before = some (a,after)) : result = some a ∧ after = before ++ names a := by
  rw [notes before] at ok
  obtain ⟨b,found,equal⟩ := Option.map_eq_some_iff.mp ok
  cases equal
  exact ⟨found,rfl⟩

theorem mapM_eq_some {ι α : Type} {f : ι → Option α} {items : List ι} {all : List α}
    (found : items.mapM f = some all) : items.map f = all.map some := by
  induction items generalizing all with
  | nil =>
    cases found
    rfl
  | cons item items ih =>
    rw [List.mapM_cons] at found
    obtain ⟨a,first,found⟩ := Option.bind_eq_some_iff.mp found
    obtain ⟨rest,later,found⟩ := Option.bind_eq_some_iff.mp found
    cases found
    rw [List.map_cons,List.map_cons,first,ih later]

theorem forall₂_of_map_eq {ι α : Type} {f : ι → Option α} {items : List ι} {all : List α}
    (same : items.map f = all.map some) : List.Forall₂ (fun i a => f i = some a) items all := by
  rw [← List.forall₂_eq_eq_eq,List.forall₂_map_left_iff,List.forall₂_map_right_iff] at same
  exact same

theorem map_eq_of_forall₂ {α β γ : Type} {f : α → γ} {g : β → γ} {left : List α} {right : List β}
    (each : List.Forall₂ (fun a b => f a = g b) left right) : left.map f = right.map g := by
  rw [← List.forall₂_eq_eq_eq,List.forall₂_map_left_iff,List.forall₂_map_right_iff]
  exact each

theorem exists_partner {α β : Type} {R : α → β → Prop} {left : List α} {right : List β}
    (related : List.Forall₂ R left right) {b : β} (member : b ∈ right) : ∃ a ∈ left, R a b := by
  induction related with
  | nil => cases member
  | cons here _ ih =>
    rcases List.mem_cons.mp member with rfl | later
    · exact ⟨_,by simp,here⟩
    · obtain ⟨a,inside,partner⟩ := ih later
      exact ⟨a,by simp [inside],partner⟩

theorem exists_of_map_eq {ι α : Type} {f : ι → Option α} {items : List ι} {all : List α}
    (same : items.map f = all.map some) {a : α} (member : a ∈ all) : ∃ i ∈ items, f i = some a :=
  exists_partner (forall₂_of_map_eq same) member

section Stages

variable (definitions : Table Schema)

theorem flowTypeOrAny_notes (schema : Option Schema) :
    Typing.Notes FlowType.names (flowTypeOrAny definitions schema) (typeOrAny? definitions schema) := by
  cases schema with
  | none => exact Typing.Notes.pure _ rfl
  | some s => exact flowType_notes definitions s

theorem path_notes (path : List Argument) :
    Typing.Notes (fun all => all.flatMap FlowType.names)
      (path.mapM fun a => flowTypeOrAny definitions a.schema)
      (path.mapM fun a => typeOrAny? definitions a.schema) :=
  Typing.Notes.mapM path fun a _ => flowTypeOrAny_notes definitions a.schema

/-- What is typed where it is asked for: no type for no schema, and the type of the only one. -/
theorem asked_notes (schema : Option Schema) :
    Typing.Notes (fun type : Option FlowType => type.toList.flatMap FlowType.names)
      (some <$> flowTypeOrAny definitions schema) ((typeOrAny? definitions schema).map some) :=
  (flowTypeOrAny_notes definitions schema).map some fun type => by simp

theorem dataType_typed (i : Inputs) {before after : List String} {type : Option FlowType}
    (ok : (i.dataType definitions).run before = some (type,after)) :
    i.dataSchemas.map (typeOrAny? definitions) = type.toList.map some ∧
      after = before ++ type.toList.flatMap FlowType.names := by
  unfold Inputs.dataType at ok
  unfold Inputs.dataSchemas
  split at ok
  · rename_i form
    obtain ⟨found,noted⟩ := (asked_notes definitions (some (argumentsSchema i.form))).run_eq_some ok
    obtain ⟨data,typed,rfl⟩ := Option.map_eq_some_iff.mp found
    simp [form,typed,noted]
  · rename_i form
    split at ok
    · rename_i a body
      obtain ⟨found,noted⟩ := (asked_notes definitions a.schema).run_eq_some ok
      obtain ⟨data,typed,rfl⟩ := Option.map_eq_some_iff.mp found
      simp [form,body,typed,noted]
    · rename_i body
      cases ok
      simp [form,body]

end Stages

/-- A signature holds the type of each schema at its place, and its names are noted in this order. -/
theorem signature_typed (definitions : Table Schema) (i : Inputs) (response : Option Schema)
    {before after : List String} {s : Signature}
    (ok : (i.signature definitions response).run before = some (s,after)) :
    i.parameterSchemas.map (typeOrAny? definitions) = s.parameterTypes.map some ∧
      typeOrAny? definitions response = some s.response ∧
      after = before ++ s.types.flatMap FlowType.names := by
  obtain ⟨path,afterPath,pathOk,ok⟩ := Typing.bind_some _ _ _ _ ok
  obtain ⟨pathFound,pathNoted⟩ := (path_notes definitions i.path).run_eq_some pathOk
  have pathTyped : (i.path.map (·.schema)).map (typeOrAny? definitions) = path.map some := by
    rw [← mapM_eq_some pathFound,List.map_map]
    rfl
  -- Both ways of typing the query go on alike.
  have rest (query : Option FlowType) (afterQuery : List String)
      (queryTyped : (if i.query.isEmpty then [] else [some (argumentsSchema i.query)]).map
        (typeOrAny? definitions) = query.toList.map some)
      (queryNoted : afterQuery = afterPath ++ query.toList.flatMap FlowType.names)
      (ok : (do let data ← i.dataType definitions
                let response ← flowTypeOrAny definitions response
                return (⟨path,query,data,response⟩ : Signature) : Typing Signature).run afterQuery =
        some (s,after)) :
      i.parameterSchemas.map (typeOrAny? definitions) = s.parameterTypes.map some ∧
        typeOrAny? definitions response = some s.response ∧
        after = before ++ s.types.flatMap FlowType.names := by
    obtain ⟨data,afterData,dataOk,ok⟩ := Typing.bind_some _ _ _ _ ok
    obtain ⟨dataTyped,dataNoted⟩ := dataType_typed definitions i dataOk
    obtain ⟨answer,afterAnswer,answerOk,ok⟩ := Typing.bind_some _ _ _ _ ok
    obtain ⟨answerFound,answerNoted⟩ := (flowTypeOrAny_notes definitions response).run_eq_some answerOk
    cases ok
    refine ⟨?_,answerFound,?_⟩
    · simp only [Inputs.parameterSchemas,Signature.parameterTypes,List.map_append,pathTyped,
        queryTyped,dataTyped]
    · simp only [answerNoted,dataNoted,queryNoted,pathNoted,Signature.types,
        Signature.parameterTypes,List.flatMap_append,List.flatMap_singleton,List.append_assoc]
  dsimp only at ok
  split at ok
  · rename_i absent
    exact rest _ _ (by simp [absent]) (by simp) ok
  · rename_i present
    obtain ⟨query,afterQuery,queryOk,ok⟩ := Typing.bind_some _ _ _ _ ok
    obtain ⟨queryFound,queryNoted⟩ :=
      (asked_notes definitions (some (argumentsSchema i.query))).run_eq_some queryOk
    obtain ⟨type,typed,rfl⟩ := Option.map_eq_some_iff.mp queryFound
    exact rest _ _ (by simp [present,typed]) queryNoted ok

section Found

variable (definitions : Table Schema)

theorem Typing.bind_isSome {α β : Type} {x : Typing α} {next : α → Typing β} {before : List String}
    (first : (x.run before).isSome = true) (rest : ∀ a after, ((next a).run after).isSome = true) :
    ((x >>= next).run before).isSome = true := by
  obtain ⟨⟨a,after⟩,found⟩ := Option.isSome_iff_exists.mp first
  rw [StateT.run_bind,found]
  exact rest a after

theorem Typing.Notes.isSome {α : Type} {names : α → List String} {x : Typing α} {result : Option α}
    (notes : Typing.Notes names x result) (found : result.isSome = true) (before : List String) :
    (x.run before).isSome = true := by
  rw [notes before,Option.isSome_map]
  exact found

theorem dataType_found (i : Inputs)
    (typed : ∀ schema ∈ i.dataSchemas, (typeOrAny? definitions schema).isSome = true)
    (before : List String) : ((i.dataType definitions).run before).isSome = true := by
  unfold Inputs.dataSchemas at typed
  unfold Inputs.dataType
  split
  · rename_i form
    rw [if_pos form] at typed
    apply (asked_notes definitions (some (argumentsSchema i.form))).isSome
    rw [Option.isSome_map]
    exact typed _ (by simp)
  · rename_i form
    rw [if_neg form] at typed
    split
    · rename_i a body
      apply (asked_notes definitions a.schema).isSome
      rw [Option.isSome_map]
      exact typed _ (by simp [body])
    · rfl

/-- A signature is found where each schema has a type. -/
theorem signature_found (i : Inputs) (response : Option Schema)
    (typed : ∀ schema ∈ i.parameterSchemas ++ [response],
      (typeOrAny? definitions schema).isSome = true) (before : List String) :
    ((i.signature definitions response).run before).isSome = true := by
  simp only [Inputs.parameterSchemas,List.forall_mem_append] at typed
  obtain ⟨⟨⟨path,query⟩,data⟩,answer⟩ := typed
  have tail (s : List FlowType) (asked : Option FlowType) (before : List String) :
      ((do let data ← i.dataType definitions
           let response ← flowTypeOrAny definitions response
           return (⟨s,asked,data,response⟩ : Signature) : Typing Signature).run before).isSome = true :=
    Typing.bind_isSome (dataType_found definitions i data before) fun _ after =>
      Typing.bind_isSome ((flowTypeOrAny_notes definitions response).isSome
        (answer _ (by simp)) after) fun _ _ => rfl
  have paths : (i.path.mapM fun a => typeOrAny? definitions a.schema).isSome = true :=
    (mapM_isSome _ _).mpr fun a member => path _ (List.mem_map_of_mem member)
  refine Typing.bind_isSome ((path_notes definitions i.path).isSome paths before) fun s after => ?_
  dsimp only
  split
  · exact tail s none after
  · rename_i present
    rw [if_neg present] at query
    refine Typing.bind_isSome ((asked_notes definitions (some (argumentsSchema i.query))).isSome ?_ after)
      fun asked after => tail s asked after
    rw [Option.isSome_map]
    exact query _ (by simp)

end Found

section Congr

variable {definitions other : Table Schema}

theorem flowTypeOrAny_congr {schema : Option Schema}
    (same : ∀ s, schema = some s → flowType definitions s = flowType other s) :
    flowTypeOrAny definitions schema = flowTypeOrAny other schema := by
  cases schema with
  | none => rfl
  | some s => exact same s rfl

theorem dataType_congr (i : Inputs)
    (same : ∀ s, some s ∈ i.dataSchemas → flowType definitions s = flowType other s) :
    i.dataType definitions = i.dataType other := by
  unfold Inputs.dataSchemas at same
  unfold Inputs.dataType
  split
  · rename_i form
    rw [if_pos form] at same
    rw [same _ (by simp)]
  · rename_i form
    rw [if_neg form] at same
    cases body : i.body with
    | none => rfl
    | some a =>
      rw [body] at same
      have typed : flowTypeOrAny definitions a.schema = flowTypeOrAny other a.schema :=
        flowTypeOrAny_congr fun s given => same s (by simp [given])
      simp only [typed]

theorem signature_congr (i : Inputs) (response : Option Schema)
    (same : ∀ s, some s ∈ i.parameterSchemas ++ [response] →
      flowType definitions s = flowType other s) :
    i.signature definitions response = i.signature other response := by
  have paths : (i.path.mapM fun a => flowTypeOrAny definitions a.schema) =
      i.path.mapM fun a => flowTypeOrAny other a.schema := by
    refine mapM_congr i.path fun a member => flowTypeOrAny_congr fun s given => same s ?_
    have listed : a.schema ∈ i.path.map (·.schema) := List.mem_map_of_mem member
    simp [Inputs.parameterSchemas,← given,listed]
  have query (asked : ¬ i.query.isEmpty = true) : flowType definitions (argumentsSchema i.query) =
      flowType other (argumentsSchema i.query) :=
    same _ (by simp [Inputs.parameterSchemas,asked])
  have data : i.dataType definitions = i.dataType other :=
    dataType_congr i fun s member => same s (by simp [Inputs.parameterSchemas,member])
  have answer : flowTypeOrAny definitions response = flowTypeOrAny other response :=
    flowTypeOrAny_congr fun s given => same s (by simp [given])
  unfold Inputs.signature
  rw [paths,data,answer]
  split
  · rfl
  · rename_i asked
    rw [query asked]

theorem request_congr (e : Endpoint) (hostname : Option String)
    (same : ∀ s ∈ e.schemas, flowType definitions s = flowType other s) :
    e.request definitions hostname = e.request other hostname := by
  unfold Endpoint.request
  rw [signature_congr e.inputs e.responseSchema fun s member => same s (mem_schemas.mpr member)]

end Congr

end FlowClient
