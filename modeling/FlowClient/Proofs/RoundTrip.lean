import FlowClient.Proofs.Keyed
import FlowClient.Proofs.Levels
import FlowClient.Proofs.Restored

/-! Documents written and read again. Reading the value that a document is written as gives the document
back. -/

namespace FlowClient

/-- What a schema keeps has one written form: no property comes twice, values are canonical, and none that
counts as absent is present. -/
@[mk_iff] structure Schema.Regular (s : Schema) : Prop where
  properties : (Table.names s.properties).Nodup
  enumValues : ∀ j ∈ s.enumValues, j.Canonical
  defaultValue : ∀ j ∈ s.defaultValue, j.Canonical ∧ j ≠ .null
  exampleValue : ∀ j ∈ s.exampleValue, j.Canonical ∧ j ≠ .null

def Schema.Faithful (s : Schema) : Prop := ∀ t ∈ s :: s.inside, t.Regular

@[mk_iff] structure Parameter.Faithful (p : Parameter) : Prop where
  schema : ∀ s ∈ p.schema, s.Faithful
  items : ∀ s ∈ p.items, s.Faithful
  enumValues : ∀ j ∈ p.enumValues, j.Canonical

def ParameterEntry.Faithful : ParameterEntry → Prop
  | .reference _ => True
  | .inline p => p.Faithful

@[mk_iff] structure Operation.Faithful (o : Operation) : Prop where
  parameters : ∀ entry ∈ o.parameters, entry.Faithful
  responses : o.responses.names.Nodup
  schemas : ∀ entry ∈ o.responses, ∀ s ∈ entry.2.schema, s.Faithful

@[mk_iff] structure PathItem.Faithful (i : PathItem) : Prop where
  parameters : ∀ entry ∈ i.parameters, entry.Faithful
  operations : ∀ method, ∀ o ∈ i.operation? method, o.Faithful

/-- A value that is kept as it is reads as no path item. -/
def PathEntry.Faithful : PathEntry → Prop
  | .item i => i.Faithful
  | .other j => j.Canonical ∧ ∀ i, (PathItem.read j.toDraft).result 0 ≠ .ok i

@[mk_iff] structure Document.Faithful (d : Document) : Prop where
  keyed : d.Keyed
  paths : ∀ entry ∈ d.paths, entry.2.Faithful
  definitions : ∀ entry ∈ d.definitions, entry.2.Faithful
  parameters : ∀ entry ∈ d.parameters, entry.2.Faithful

section Decide

instance (j : Json) : Decidable (j = .null) := match j with
  | .null => isTrue rfl
  | .bool _ | .int _ | .float _ | .str _ | .arr _ | .obj _ => isFalse nofun

theorem unread_iff {ε α : Type} {read : Except ε α} :
    (∀ a, read ≠ .ok a) ↔ read.toOption.isNone = true := by
  cases read <;> simp [Except.toOption]

theorem forall_method_iff {P : Method → Prop} : (∀ m, P m) ↔ ∀ m ∈ Method.all, P m :=
  ⟨fun all m _ => all m,fun all m => all m m.mem_all⟩

instance (s : Schema) : Decidable s.Regular := decidable_of_iff' _ (Schema.regular_iff s)

instance (s : Schema) : Decidable s.Faithful :=
  inferInstanceAs (Decidable (∀ t ∈ s :: s.inside, t.Regular))

instance (p : Parameter) : Decidable p.Faithful := decidable_of_iff' _ (Parameter.faithful_iff p)

instance (entry : ParameterEntry) : Decidable entry.Faithful := match entry with
  | .reference _ => isTrue trivial
  | .inline p => inferInstanceAs (Decidable p.Faithful)

instance (o : Operation) : Decidable o.Faithful := decidable_of_iff' _ (Operation.faithful_iff o)

instance (i : PathItem) : Decidable i.Faithful :=
  decidable_of_iff' _ ((PathItem.faithful_iff i).trans (and_congr_right' forall_method_iff))

instance (entry : PathEntry) : Decidable entry.Faithful := match entry with
  | .item i => inferInstanceAs (Decidable i.Faithful)
  | .other _ => decidable_of_iff' _ (and_congr_right' unread_iff)

instance (d : Document) : Decidable d.Faithful := decidable_of_iff' _ (Document.faithful_iff d)

end Decide

section Schemas

theorem schemaItems_eq (all : List Schema) : schemaItems all = all.map Schema.toJson := by
  induction all with
  | nil => rfl
  | cons s all ih => rw [schemaItems,ih,List.map_cons]

theorem schemaMembers_eq (members : List (String × Schema)) :
    schemaMembers members = Table.toMembers Schema.toJson members := by
  induction members with
  | nil => rfl
  | cons member members ih =>
    rw [schemaMembers,ih]
    rfl

theorem schemaIf_eq (items : Option Schema) : schemaIf items = items.map Schema.toJson := by
  cases items <;> rfl

theorem Schema.toJson_eq (s : Schema) : s.toJson = .obj (
    memberIf "$ref" (s.ref.map .str) ++ memberIf "type" (s.type.map .str) ++
    memberIf "format" (s.format.map .str) ++ memberIf "title" (s.title.map .str) ++
    memberIf "description" (s.description.map .str) ++
    tableIf "properties" (Table.toMembers Schema.toJson s.properties) ++
    listIf "required" (s.required.map .str) ++ memberIf "items" (s.items.map Schema.toJson) ++
    listIf "allOf" (s.allOf.map Schema.toJson) ++ listIf "enum" (s.enumValues.map id) ++
    memberIf "default" (s.defaultValue.map id) ++ memberIf "example" (s.exampleValue.map id)) := by
  cases s
  simp only [Schema.toJson,schemaItems_eq,schemaMembers_eq,schemaIf_eq,List.map_id,Option.map_id,id]

theorem Schema.toJson_ne_null (s : Schema) : s.toJson ≠ .null := by
  rw [Schema.toJson_eq]
  nofun

theorem Schema.Faithful.inside {s t : Schema} (faithful : s.Faithful) (inner : t ∈ s.inside) :
    t.Faithful :=
  fun u below => faithful u (List.mem_cons_of_mem _ (Schema.inside_below inner below))

theorem schema_restores_within (n : Nat) {s : Schema} (faithful : s.Faithful) :
    Restores n (Schema.readWithin n) s.toJson s := by
  induction n generalizing s with
  | zero => exact fun _ _ below => absurd below (Nat.not_lt_zero _)
  | succ n ih =>
    have regular := faithful s (by simp)
    have inner {t : Schema} (inside : t ∈ s.inside) : Restores n (Schema.readWithin n) t.toJson t :=
      ih (faithful.inside inside)
    rw [Schema.toJson_eq]
    refine Supplies.record ?_ (by simp [schemaRecord,Field.of,Field.maybe])
    simp only [List.append_assoc]
    exact .text rfl <| .text rfl <| .text rfl <| .text rfl <| .text rfl <|
      .entries regular.properties (fun e member => inner (property_inside member)) rfl <|
      .items (fun text _ => restores_text text) rfl <|
      .maybe (fun t items => ⟨inner (items_inside items),t.toJson_ne_null⟩) rfl <|
      .items (fun t member => inner (part_inside member)) rfl <|
      .items (fun j member => (regular.enumValues j member).restores) rfl <|
      .maybe (fun j given => (regular.defaultValue j given).imp_left (·.restores)) rfl <|
      .maybe (fun j given => (regular.exampleValue j given).imp_left (·.restores)) rfl <|
      (by cases s; exact .done _)

theorem schema_restores {n : Nat} {s : Schema} (faithful : s.Faithful) :
    Restores n Schema.read s.toJson s := by
  intro room enough _
  -- Reading allows as many levels as the draft has room for.
  have levels : (s.toJson.draftWithin room).room = room := by
    rw [Schema.toJson_eq]
    rfl
  rw [Schema.read,levels]
  exact schema_restores_within (room + 1) faithful room enough (Nat.lt_succ_self room)

theorem schemaOf_restores {n : Nat} {value : Option Schema} (faithful : ∀ s ∈ value, s.Faithful) :
    ∀ s ∈ value, Restores n Schema.read s.toJson s ∧ s.toJson ≠ .null :=
  fun s given => ⟨schema_restores (faithful s given),s.toJson_ne_null⟩

end Schemas

section Parameters

variable {n : Nat}

theorem parameter_supplies {p : Parameter} (faithful : p.Faithful) (settled : Bool) :
    ∃ ms, p.toJson = .obj ms ∧ Supplies n (parameterRecord settled).fields (ms ++ []) {} p := by
  refine ⟨_,rfl,?_⟩
  simp only [List.append_assoc,List.cons_append,List.nil_append]
  rw [← List.map_id p.enumValues]
  exact .of (restores_text p.name) <| .of (restores_location settled p.location) <| .text rfl <|
    .of (restores_flag p.required) <| .maybe (schemaOf_restores faithful.schema) rfl <|
    .text rfl <| .text rfl <| .maybe (schemaOf_restores faithful.items) rfl <|
    .items (fun j member => (faithful.enumValues j member).restores) rfl <| .text rfl <|
    (by cases p; exact .done _)

theorem parameter_restores {p : Parameter} (faithful : p.Faithful) (settled : Bool) :
    Restores n (parameterRecord settled).read p.toJson p := by
  obtain ⟨ms,written,supplies⟩ := parameter_supplies (n := n) faithful settled
  rw [written]
  exact supplies.restores (by simp [parameterRecord,Field.of,Field.maybe])

theorem parameter_no_reference {p : Parameter} (faithful : p.Faithful) (room : Nat) :
    (referenceRecord.readObject (p.toJson.draftWithin room)).Fails := by
  obtain ⟨ms,written,supplies⟩ := parameter_supplies (n := 0) faithful true
  -- No field of a parameter is called as that of a reference.
  have foreign : ∀ m ∈ ms, ∀ f ∈ referenceRecord.fields, f.name ≠ m.1 := by
    intro m member f listed same
    have known := supplies.keys m (List.mem_append_left _ member)
    rw [← same,List.mem_singleton.mp listed] at known
    simp [parameterRecord,Field.of,Field.maybe] at known
  rw [written,Json.draftWithin]
  cases room with
  | zero => exact ⟨_,rfl⟩
  | succ room => exact ⟨_,fill_foreign foreign room rfl⟩

theorem parameterEntry_restores {entry : ParameterEntry} (faithful : entry.Faithful) :
    Restores n ParameterEntry.read entry.toJson entry := by
  apply Restores.settled
  intro room enough below
  cases entry with
  | reference path =>
    obtain ⟨inner,rfl,_⟩ := obj_room enough
    rfl
  | inline p =>
    obtain ⟨fault,fails⟩ := parameter_no_reference faithful room
    have given := parameter_restores faithful true room enough below
    change Reading.orElse (ParameterEntry.reference <$> referenceRecord.readObject (p.toJson.draftWithin room))
      (Reading.orElse (ParameterEntry.inline <$> (parameterRecord true).read (p.toJson.draftWithin room)) _) = _
    rw [fails,given]
    rfl

end Parameters

section Operations

variable {n : Nat}

theorem response_restores {r : Response} (faithful : ∀ s ∈ r.schema, s.Faithful) :
    Restores n Response.read r.toJson r := by
  refine Supplies.restores ?_ (by simp [responseRecord,Field.of,Field.maybe])
  simp only [List.append_assoc]
  exact .text rfl <| .text rfl <| .maybe (schemaOf_restores faithful) rfl <|
    (by cases r; exact .done _)

theorem operation_restores {o : Operation} (faithful : o.Faithful) :
    Restores n Operation.read o.toJson o := by
  refine Supplies.restores ?_ (by simp [operationRecord,Field.of,Field.maybe])
  simp only [List.append_assoc]
  exact .text rfl <| .text rfl <| .text rfl <| .items (fun text _ => restores_text text) rfl <|
    .items (fun text _ => restores_text text) rfl <|
    .items (fun entry member => parameterEntry_restores (faithful.parameters entry member)) rfl <|
    .entries faithful.responses
      (fun entry member => response_restores (faithful.schemas entry member)) rfl <|
    .maybe (fun flag _ => ⟨restores_flag flag,nofun⟩) rfl <| (by cases o; exact .done _)

theorem pathItem_restores {i : PathItem} (faithful : i.Faithful) :
    Restores n PathItem.read i.toJson i := by
  have operation (method : Method) : ∀ o ∈ i.operation? method,
      Restores n Operation.read o.toJson o ∧ o.toJson ≠ .null :=
    fun o declared => ⟨operation_restores (faithful.operations method o declared),nofun⟩
  refine Supplies.restores ?_ (by simp [pathItemRecord,Field.of,Field.maybe])
  simp only [List.append_assoc]
  exact .text rfl <|
    .items (fun entry member => parameterEntry_restores (faithful.parameters entry member)) rfl <|
    .maybe (operation .get) rfl <| .maybe (operation .put) rfl <| .maybe (operation .post) rfl <|
    .maybe (operation .delete) rfl <| .maybe (operation .options) rfl <|
    .maybe (operation .patch) rfl <| (by cases i; exact .done _)

theorem pathItem_unread {j : Json} (unread : ∀ i, (PathItem.read j.toDraft).result 0 ≠ .ok i)
    {room : Nat} (enough : j.depth ≤ room) : (PathItem.read (j.draftWithin room)).Fails := by
  -- Drafts of one value that differ in their room are twins, and readers agree on twins.
  have alike := agree_pathItem (Nat.lt_succ_self _) (Nat.lt_succ_self _)
    (twin_draftWithin (Nat.le_refl j.depth) enough)
  rcases alike with ⟨⟨i,gives⟩,_⟩ | ⟨_,fails⟩
  · exact absurd (Reading.result_of_gives gives 0) (unread i)
  · exact fails

theorem pathEntry_restores {entry : PathEntry} (faithful : entry.Faithful) :
    Restores n PathEntry.read entry.toJson entry := by
  apply Restores.settled
  intro room enough below
  cases entry with
  | item i =>
    have given := pathItem_restores faithful room enough below
    change Reading.orElse (PathEntry.item <$> PathItem.read (i.toJson.draftWithin room)) _ = _
    rw [given]
    rfl
  | other j =>
    obtain ⟨canonical,unread⟩ := faithful
    obtain ⟨fault,fails⟩ := pathItem_unread unread enough
    change Reading.orElse (PathEntry.item <$> PathItem.read (j.draftWithin room))
      (Reading.orElse (PathEntry.other <$> (j.draftWithin room).keep) _) = _
    rw [fails,canonical.keep_draftWithin enough]
    rfl

end Operations

section Documents

variable {n : Nat}

theorem info_restores (i : Info) : Restores n infoRecord.read i.toJson i := by
  refine Supplies.restores ?_ (by simp [infoRecord,Field.of,Field.maybe])
  simp only [List.append_assoc,List.cons_append,List.nil_append]
  exact .of (restores_text i.title) <| .text rfl <| .of (restores_text i.version) <|
    (by cases i; exact .done _)

theorem tag_restores (t : Tag) : Restores n tagRecord.read t.toJson t := by
  refine Supplies.restores ?_ (by simp [tagRecord,Field.of,Field.maybe])
  simp only [List.cons_append,List.nil_append]
  exact .of (restores_text t.name) <| .text rfl <| (by cases t; exact .done _)

theorem document_restores {d : Document} (faithful : d.Faithful) :
    Restores n Document.read d.toJson d := by
  have texts : ∀ text : String, Restores n Draft.text (.str text) text := restores_text
  refine Supplies.restores ?_ (by simp [documentRecord,Field.of,Field.maybe])
  simp only [List.append_assoc,List.cons_append,List.nil_append]
  exact .of (restores_text d.swagger) <| .of (info_restores d.info) <| .text rfl <| .text rfl <|
    .items (fun text _ => texts text) rfl <| .items (fun text _ => texts text) rfl <|
    .items (fun text _ => texts text) rfl <|
    .entries faithful.keyed.paths
      (fun entry member => pathEntry_restores (faithful.paths entry member)) rfl <|
    .entries faithful.keyed.definitions
      (fun entry member => schema_restores (faithful.definitions entry member)) rfl <|
    .entries faithful.keyed.parameters
      (fun entry member => parameter_restores (faithful.parameters entry member) false) rfl <|
    .items (fun tag _ => tag_restores tag) rfl <| (by cases d; exact .done _)

end Documents

/-- A document is read as it was from the tree that it is written as, in which members keep their order. -/
theorem document_round_trip {d : Document} (faithful : d.Faithful) (lookups : Nat) :
    (Document.read d.toJson.toDraft).result lookups = .ok d :=
  Reading.result_of_gives (document_restores faithful d.toJson.depth (Nat.le_refl _)
    (Nat.lt_succ_self _)) lookups

/-- A museum with a path that is no path item, both kinds of parameter entries, a composition, and raw values
that are null or objects themselves. -/
def museumDocument : Document where
  swagger := "2.0"
  info := { title := "Museum", version := "1" }
  schemes := ["https", "http"]
  paths := [
    ("/rooms", .item {
      parameters := [
        .reference "#/parameters/page",
        .inline {
          name := "lang", location := .query, type := some "string"
          enumValues := [.str "en", .null] }]
      get := some {
        deprecated := some true
        responses := [
          ("default", {}),
          ("200", { schema := some { ref := some "#/definitions/Room" } })] } }),
    ("/about", .other (.obj [("get", .str "closed")]))]
  definitions := [
    ("Room", {
      allOf := [{ ref := some "#/definitions/Place" }]
      properties := [
        ("size", {
          type := some "object"
          exampleValue := some (.obj [("depth", .int 4), ("width", .arr [.null])]) }),
        ("name", { type := some "string" })]
      required := ["name"] }),
    ("Place", { type := some "array", items := some { type := some "string" } })]
  parameters := [("page", { name := "page", location := .query, type := some "integer" })]
  tags := [{ name := "rooms" }]

theorem document_round_trip_museum : museumDocument.Faithful ∧
    (Document.read museumDocument.toJson.toDraft).result 0 = .ok museumDocument := by
  have faithful : museumDocument.Faithful := by decide +kernel
  exact ⟨faithful,document_round_trip faithful 0⟩

end FlowClient
