import FlowClient.Proofs.AgreeRecord

/-! Everything that a document holds reads alike from twins. -/

namespace FlowClient

variable {n n' : Nat}

theorem schema_matches {inner inner' : Draft → Reading Schema} (agree : Agree n n' inner inner') :
    List.Forall₂ (Field.Matches n n') (schemaRecord inner).fields (schemaRecord inner').fields :=
  .cons (matches_maybe _ agree_text _ _) <| .cons (matches_maybe _ agree_text _ _) <|
  .cons (matches_maybe _ agree_text _ _) <| .cons (matches_maybe _ agree_text _ _) <|
  .cons (matches_maybe _ agree_text _ _) <| .cons (matches_of _ _ agree.table _ _) <|
  .cons (matches_of _ _ agree_text.list _ _) <| .cons (matches_maybe _ agree _ _) <|
  .cons (matches_of _ _ agree.list _ _) <| .cons (matches_of _ _ agree_keep.list _ _) <|
  .cons (matches_maybe _ agree_keep _ _) <| .cons (matches_maybe _ agree_keep _ _) .nil

theorem agree_readWithin (levels levels' : Nat) :
    Agree levels levels' (Schema.readWithin levels) (Schema.readWithin levels') := by
  induction levels generalizing levels' with
  | zero => exact fun _ _ _ _ below => absurd below (Nat.not_lt_zero _)
  | succ levels ih =>
    cases levels' with
    | zero => exact fun _ _ _ _ _ below' => absurd below' (Nat.not_lt_zero _)
    | succ levels' => exact agree_record (schema_matches (ih levels'))

theorem Twin.at_room {r r' : Nat} {x y : Draft} (twin : Twin r r' x y) : Twin x.room y.room x y := by
  cases twin with
  | leaf simple => exact .leaf simple
  | array rooms size each => exact .array rooms size each
  | object rooms keys known each => exact .object rooms keys known each
  | shuffled rooms keys distinct each => exact .shuffled rooms keys distinct each

theorem agree_schema : Agree n n' Schema.read Schema.read :=
  fun _ _ x y _ _ twin => agree_readWithin (x.room + 1) (y.room + 1) (Nat.lt_succ_self _)
    (Nat.lt_succ_self _) twin.at_room

theorem parameter_matches (settled : Bool) : List.Forall₂ (Field.Matches n n')
    (parameterRecord settled).fields (parameterRecord settled).fields :=
  .cons (matches_of _ _ agree_text _ _) <|
  .cons (matches_of _ _ (agree_variant settled Location.words) _ _) <|
  .cons (matches_maybe _ agree_text _ _) <| .cons (matches_of _ _ agree_flag _ _) <|
  .cons (matches_maybe _ agree_schema _ _) <| .cons (matches_maybe _ agree_text _ _) <|
  .cons (matches_maybe _ agree_text _ _) <| .cons (matches_maybe _ agree_schema _ _) <|
  .cons (matches_of _ _ agree_keep.list _ _) <| .cons (matches_maybe _ agree_text _ _) .nil

theorem reference_matches :
    List.Forall₂ (Field.Matches n n') referenceRecord.fields referenceRecord.fields :=
  .cons (matches_of _ _ agree_text _ _) .nil

theorem agree_parameterEntry : Agree n n' ParameterEntry.read ParameterEntry.read := by
  apply Agree.settled
  intro r r' x y below below' twin
  have reference := (agree_readObject reference_matches).mono (Nat.le_succ n) (Nat.le_succ n') below
    below' twin
  have inline := agree_fields (parameter_matches true) below below' twin
  exact (reference.map _ _).orElse ((inline.map _ _).orElse (.fail _ _))

theorem agree_response : Agree n n' Response.read Response.read :=
  agree_fields <| .cons (matches_maybe _ agree_text _ _) <|
    .cons (matches_maybe _ agree_text _ _) <| .cons (matches_maybe _ agree_schema _ _) .nil

theorem agree_operation : Agree n n' Operation.read Operation.read :=
  agree_fields <| .cons (matches_maybe _ agree_text _ _) <|
    .cons (matches_maybe _ agree_text _ _) <| .cons (matches_maybe _ agree_text _ _) <|
    .cons (matches_of _ _ agree_text.list _ _) <| .cons (matches_of _ _ agree_text.list _ _) <|
    .cons (matches_of _ _ agree_parameterEntry.list _ _) <|
    .cons (matches_of _ _ agree_response.table _ _) <| .cons (matches_maybe _ agree_flag _ _) .nil

theorem agree_pathItem : Agree n n' PathItem.read PathItem.read :=
  agree_fields <| .cons (matches_maybe _ agree_text _ _) <|
    .cons (matches_of _ _ agree_parameterEntry.list _ _) <|
    .cons (matches_maybe _ agree_operation _ _) <| .cons (matches_maybe _ agree_operation _ _) <|
    .cons (matches_maybe _ agree_operation _ _) <| .cons (matches_maybe _ agree_operation _ _) <|
    .cons (matches_maybe _ agree_operation _ _) <| .cons (matches_maybe _ agree_operation _ _) .nil

theorem agree_pathEntry : Agree n n' PathEntry.read PathEntry.read := by
  apply Agree.settled
  intro r r' x y below below' twin
  exact ((agree_pathItem below below' twin).map _ _).orElse
    ((twin.keep.map _ _).orElse (.fail _ _))

theorem agree_info : Agree n n' infoRecord.read infoRecord.read :=
  agree_fields <| .cons (matches_of _ _ agree_text _ _) <|
    .cons (matches_maybe _ agree_text _ _) <| .cons (matches_of _ _ agree_text _ _) .nil

theorem agree_tag : Agree n n' tagRecord.read tagRecord.read :=
  agree_fields <| .cons (matches_of _ _ agree_text _ _) <| .cons (matches_maybe _ agree_text _ _) .nil

theorem document_matches :
    List.Forall₂ (Field.Matches n n') documentRecord.fields documentRecord.fields :=
  .cons (matches_of _ _ agree_text _ _) <| .cons (matches_of _ _ agree_info _ _) <|
  .cons (matches_maybe _ agree_text _ _) <| .cons (matches_maybe _ agree_text _ _) <|
  .cons (matches_of _ _ agree_text.list _ _) <| .cons (matches_of _ _ agree_text.list _ _) <|
  .cons (matches_of _ _ agree_text.list _ _) <| .cons (matches_of _ _ agree_pathEntry.table _ _) <|
  .cons (matches_of _ _ agree_schema.table _ _) <|
  .cons (matches_of _ _ (agree_fields (parameter_matches false)).table _ _) <|
  .cons (matches_of _ _ agree_tag.list _ _) .nil

end FlowClient
