import FlowClient.Proofs.Insertion

/-! Extensions of a path item: members under keys of no meaning, in any object of fields at any depth. Reading passes
them over. -/

namespace FlowClient

variable {n n' : Nat}

theorem sighted_schema {inner inner' : Draft → Reading Schema} (blind : Blind n n' (.record .schema) inner inner') :
    Sighted n n' Kind.schema.fields (schemaRecord inner).fields (schemaRecord inner').fields :=
  .maybe blind_text <| .maybe blind_text <| .maybe blind_text <| .maybe blind_text <| .maybe blind_text <|
  .of blind.table <| .of blind_text.list.plain <| .maybe blind <| .of blind.list <|
  .of blind_keep.list.plain <| .maybe blind_keep <| .maybe blind_keep .nil

theorem blind_readWithin (levels levels' : Nat) :
    Blind levels levels' (.record .schema) (Schema.readWithin levels) (Schema.readWithin levels') := by
  induction levels generalizing levels' with
  | zero => exact fun _ _ _ _ _ _ _ below => absurd below (Nat.not_lt_zero _)
  | succ levels ih =>
    cases levels' with
    | zero => exact fun _ _ _ _ _ _ _ _ below' => absurd below' (Nat.not_lt_zero _)
    | succ levels' => exact blind_record rfl rfl (sighted_schema (ih levels'))

theorem blind_schema : Blind n n' (.record .schema) Schema.read Schema.read := by
  intro room room' x y related enough enough' _ _
  have own (j : Json) {room : Nat} (enough : j.depth ≤ room) :
      j.depth ≤ (j.draftWithin room).room ∧ j.draftWithin (j.draftWithin room).room = j.draftWithin room := by
    cases j with
    | null | bool | int | float | str => exact ⟨Nat.le_refl 0,rfl⟩
    | arr | obj => exact ⟨enough,rfl⟩
  obtain ⟨fits,same⟩ := own x enough
  obtain ⟨fits',same'⟩ := own y enough'
  have levels := blind_readWithin ((x.draftWithin room).room + 1) ((y.draftWithin room').room + 1) related fits fits'
    (Nat.lt_succ_self _) (Nat.lt_succ_self _)
  rwa [same,same'] at levels

theorem sighted_parameter (settled : Bool) :
    Sighted n n' Kind.parameter.fields (parameterRecord settled).fields (parameterRecord settled).fields :=
  .of blind_text <| .of (blind_variant settled Location.words) <| .maybe blind_text <| .of blind_flag <|
  .maybe blind_schema <| .maybe blind_text <| .maybe blind_text <| .maybe blind_schema <|
  .of blind_keep.list.plain <| .maybe blind_text .nil

theorem blind_reference : Blind n n' (.record .parameter) referenceRecord.readObject referenceRecord.readObject := by
  have fields : Sighted n n' [("$ref",.plain)] referenceRecord.fields referenceRecord.fields := .of blind_text .nil
  apply blind_readObject fields
  intro key part listed
  obtain ⟨rfl,rfl⟩ : (key,part) = ("$ref",.plain) := List.mem_singleton.mp (mem_of_lookup listed)
  exact ⟨by decide,rfl⟩

theorem blind_parameterEntry : Blind n n' (.record .parameter) ParameterEntry.read ParameterEntry.read := by
  apply Blind.settled
  have inline : Blind n n' (.record .parameter) (parameterRecord true).read (parameterRecord true).read :=
    blind_fields (sighted_parameter true)
  have neither : Blind n n' (.record .parameter)
      (fun _ => Reading.fail (.mismatch (.noAlternative "ParameterOrRef")) : Draft → Reading ParameterEntry)
      fun _ => Reading.fail (.mismatch (.noAlternative "ParameterOrRef")) := fun _ _ _ _ _ _ _ _ _ => rfl
  exact (blind_reference.map ParameterEntry.reference).orElse ((inline.map ParameterEntry.inline).orElse neither)

theorem blind_response : Blind n n' (.record .response) Response.read Response.read :=
  blind_fields (.maybe blind_text <| .maybe blind_text <| .maybe blind_schema .nil)

theorem blind_operation : Blind n n' (.record .operation) Operation.read Operation.read :=
  blind_fields (.maybe blind_text <| .maybe blind_text <| .maybe blind_text <| .of blind_text.list.plain <|
    .of blind_text.list.plain <| .of blind_parameterEntry.list <| .of blind_response.table <| .maybe blind_flag .nil)

theorem blind_pathItem : Blind n n' (.record .pathItem) PathItem.read PathItem.read :=
  blind_fields (.maybe blind_text <| .of blind_parameterEntry.list <| .maybe blind_operation <|
    .maybe blind_operation <| .maybe blind_operation <| .maybe blind_operation <| .maybe blind_operation <|
    .maybe blind_operation .nil)

namespace Kind

def Value : Kind → Type
  | schema => Schema
  | parameter => ParameterEntry
  | response => Response
  | operation => Operation
  | pathItem => PathItem

def read : (k : Kind) → Draft → Reading k.Value
  | schema => Schema.read
  | parameter => ParameterEntry.read
  | response => Response.read
  | operation => Operation.read
  | pathItem => PathItem.read

end Kind

theorem blind_kind (k : Kind) : Blind n n' (.record k) k.read k.read := by
  cases k with
  | schema => exact blind_schema
  | parameter => exact blind_parameterEntry
  | response => exact blind_response
  | operation => exact blind_operation
  | pathItem => exact blind_pathItem

/-- One more member that no object of fields knows, at any place of any of them, leaves the reading of the whole as it
was: it ends with the same fault, or gives the same value. -/
theorem read_inserted {k : Kind} {j longer : Json} (inserted : Inserted (.record k) j longer) (lookups : Nat) :
    (k.read longer.toDraft).result lookups = (k.read j.toDraft).result lookups := by
  have same := blind_kind k (.inr inserted) (Nat.le_refl _) (Nat.le_refl _) (Nat.lt_succ_self _) (Nat.lt_succ_self _)
  exact congrArg (·.result lookups) same.symm

/-- Pets that are found by a name, with what else is said of the text that each of them is, if anything. -/
def petsByName (more : List (String × Json)) : Json :=
  .obj [("get",.obj [("parameters",.arr [.obj [("name",.str "name"),("in",.str "query"),("type",.str "string")]]),
    ("responses",.obj [("200",.obj [("schema",.obj [("type",.str "array"),
      ("items",.obj ([("type",.str "string")] ++ more))])])])])]

def petsItem : PathItem where
  get := some {
    parameters := [.inline { name := "name", location := .query, type := some "string" }]
    responses := [("200",{ schema := some { type := some "array", items := some (.ofType "string") } })] }

theorem read_inserted_pets :
    Inserted (.record .pathItem) (petsByName []) (petsByName [("x-nullable",.obj [("$ref",.bool true)])]) ∧
      (PathItem.read (petsByName []).toDraft).result 0 = .ok petsItem ∧
      (PathItem.read (petsByName [("x-nullable",.obj [("$ref",.bool true)])]).toDraft).result 0 = .ok petsItem := by
  have here : Inserted (.record .schema) (.obj ([("type",.str "string")] ++ []))
      (.obj ([("type",.str "string")] ++ ("x-nullable",.obj [("$ref",.bool true)]) :: [])) := .here (by decide)
  have schema := @Inserted.member .schema "items" _ _ [("type",.str "array")] [] here
  have response := @Inserted.member .response "schema" _ _ [] [] schema
  have responses := @Inserted.entry _ "200" _ _ [] [] response
  have operation := @Inserted.member .operation "responses" _ _ [("parameters",.arr [.obj [("name",.str "name"),
    ("in",.str "query"),("type",.str "string")]])] [] responses
  have inserted := @Inserted.member .pathItem "get" _ _ [] [] operation
  have read : (PathItem.read (petsByName []).toDraft).result 0 = .ok petsItem := rfl
  exact ⟨inserted,read,(read_inserted inserted 0).trans read⟩

end FlowClient
