import FlowClient.Document.Text
import FlowClient.Endpoint
import FlowClient.Proofs.AgreeDocument
import FlowClient.Proofs.FieldValue
import FlowClient.Proofs.Kept
import FlowClient.Proofs.Table

/-! What becomes of the values under the paths of a JSON document. -/

namespace FlowClient

open Reading (Sure Gives)

/-- The value of a text under a path, the last one of those given for it. -/
def JsonText.pathValue? (text path : String) : Option Draft :=
  match documentRecord.value? "paths" (scan text).1 with
  | some (.object _ members) => members.pairs.reverse.lookup path
  | _ => none

/-- What becomes of the value under a path: a path item of the document, or an entry that no endpoint
comes from. -/
inductive PathOutcome (d : Document) (path : String) (value : Draft) : PathEntry → Prop
  | item (item : PathItem) (reads : (PathItem.read value).result 0 = .ok item)
      (listed : (path,item) ∈ d.pathItems) : PathOutcome d path value (.item item)
  /-- The value does not read as a path item, but what is kept of it does: it repeats a key. -/
  | dropped (kept : Json) (fault : Fault) (item : PathItem)
      (refused : (PathItem.read value).result 0 = .error fault)
      (keeps : value.keep.result 0 = .ok kept)
      (rereads : (PathItem.read kept.toDraft).result 0 = .ok item)
      (repeated : value.distinctKeys = false) : PathOutcome d path value (.other kept)

theorem document_serves (room : Nat) : ∀ f ∈ documentRecord.fields,
    f.Serves "paths" (Draft.table PathEntry.read) (·.paths) room := by
  simp only [documentRecord,List.forall_mem_cons]
  exact ⟨.other (by decide) _ agree_text _ fun _ _ => rfl,
    .other (by decide) _ agree_info _ fun _ _ => rfl,
    .other (by decide) _ agree_text.optional _ fun _ _ => rfl,
    .other (by decide) _ agree_text.optional _ fun _ _ => rfl,
    .other (by decide) _ agree_text.list _ fun _ _ => rfl,
    .other (by decide) _ agree_text.list _ fun _ _ => rfl,
    .other (by decide) _ agree_text.list _ fun _ _ => rfl,
    .same _ agree_pathEntry.table _ fun _ _ => rfl,
    .other (by decide) _ agree_schema.table _ fun _ _ => rfl,
    .other (by decide) _ (agree_fields (parameter_matches false)).table _ fun _ _ => rfl,
    .other (by decide) _ agree_tag.list _ fun _ _ => rfl,by simp⟩

/-- A table holds under a key what the last value under it reads as. -/
theorem table_gives {α : Type} {read : Draft → Reading α} {r : Nat} {v : Draft}
    (scanned : Scanned r v) (sure : ∀ x, Scanned (r - 1) x → (read x).Sure) {t : Table α}
    (gives : Draft.table read v = pure t) : ∃ room members, v = .object room members ∧
      ∀ key a, (key,a) ∈ t → ∃ x, members.pairs.reverse.lookup key = some x ∧
        Scanned (r - 1) x ∧ read x = pure a := by
  cases scanned with
  | leaf simple => cases simple <;> exact absurd ⟨_,rfl⟩ (Gives.not_fails ⟨t,gives⟩)
  | array each => exact absurd ⟨_,rfl⟩ (Gives.not_fails ⟨t,gives⟩)
  | @object _ ending ms known each =>
    rw [Draft.table,Draft.members_object,bind_assoc] at gives
    obtain ⟨_,_,gives⟩ := (enter_alike Iff.rfl).left.bind_gives gives
    rw [pure_bind] at gives
    have all : ∀ m ∈ ms, (read m.2).Sure := fun m member => sure m.2 (each m member)
    obtain ⟨entries,given,same⟩ := (Members.readAll_sure ending known all).bind_gives gives
    obtain rfl := Reading.pure_inj same
    obtain ⟨ps,made,among,parts⟩ := Members.readAll_gives known all given
    refine ⟨r,_,rfl,?_⟩
    intro key a member
    rw [made,Members.pairs_ofPairs]
    obtain ⟨x,found,here⟩ := parts.reverse.lookup ((Table.mem_ofEntries entries key a).mp member)
    have member := List.mem_reverse.mp (mem_of_lookup found)
    exact ⟨x,found,each _ (among _ member),here⟩

theorem pathEntry_gives {r : Nat} {x : Draft} (scanned : Scanned r x) {entry : PathEntry}
    (gives : PathEntry.read x = pure entry) :
    (∃ item, entry = .item item ∧ PathItem.read x = pure item) ∨
      ∃ kept fault, entry = .other kept ∧ PathItem.read x = Reading.fail fault ∧
        x.keep = pure kept := by
  have item_sure : (PathItem.read x).Sure := agree_pathItem.sure x scanned
  obtain ⟨y,settled,gives⟩ := scanned.twin.settle.left.bind_gives gives
  obtain rfl := scanned.twin.settled.1.eq settled
  rcases item_sure with ⟨item,read⟩ | ⟨fault,failed⟩
  · rw [read] at gives
    exact .inl ⟨item,(Reading.pure_inj gives).symm,read⟩
  · rw [failed] at gives
    rcases scanned.twin.keep.left with ⟨kept,keeps⟩ | ⟨fault',failed'⟩
    · rw [keeps] at gives
      exact .inr ⟨kept,fault,(Reading.pure_inj gives).symm,failed,keeps⟩
    · rw [failed'] at gives
      exact absurd ⟨_,rfl⟩ (Gives.not_fails ⟨entry,gives⟩)

/-- A value that repeats no key reads as a path item where what is kept of it does. -/
theorem reads_of_kept {r : Nat} {x : Draft} (scanned : Scanned r x) (distinct : x.distinctKeys)
    {kept : Json} (keeps : x.keep = pure kept) {lookups : Nat} {item : PathItem}
    (rereads : (PathItem.read kept.toDraft).result lookups = .ok item) :
    (PathItem.read x).Gives := by
  have twin := scanned.kept_twin distinct keeps (Nat.le_refl kept.depth)
  have alike : (PathItem.read x).Alike (PathItem.read kept.toDraft) :=
    agree_pathItem (Nat.lt_succ_self r) (Nat.lt_succ_self kept.depth) twin
  exact alike.gives_iff.mpr ⟨item,Reading.pure_of_result alike.symm.left rereads⟩

namespace Document

theorem forM_ok {ε ι : Type} {check : ι → Except ε Unit} {entries : List ι}
    (passed : entries.forM check = .ok ()) : ∀ entry ∈ entries, check entry = .ok () := by
  induction entries with
  | nil => simp
  | cons entry entries ih =>
    rw [List.forM] at passed
    cases here : check entry with
    | ok _ =>
      rw [here] at passed
      exact List.forall_mem_cons.mpr ⟨here,ih passed⟩
    | error e =>
      rw [here] at passed
      cases passed

theorem forM_error {ε ι : Type} {check : ι → Except ε Unit} {entries : List ι} {e : ε}
    (failed : entries.forM check = .error e) : ∃ entry ∈ entries, check entry = .error e := by
  induction entries with
  | nil => cases failed
  | cons entry entries ih =>
    rw [List.forM] at failed
    cases here : check entry with
    | ok _ =>
      rw [here] at failed
      obtain ⟨other,member,there⟩ := ih failed
      exact ⟨other,List.mem_cons_of_mem _ member,there⟩
    | error e' =>
      rw [here] at failed
      obtain rfl := Except.error.inj failed
      exact ⟨entry,List.mem_cons_self,here⟩

end Document

theorem ofJsonText_of_read {text : String} {d : Document}
    (read : JsonText.read Document.read text = .ok d) (version : d.checkVersion = .ok ()) :
    Document.ofJsonText text = d.checkPaths.map fun _ => d := by
  have checked : d.check = d.checkPaths.map fun _ => d := by
    unfold Document.check
    rw [version]
    cases d.checkPaths <;> rfl
  rw [Document.ofJsonText,read]
  exact checked

theorem read_of_ofJsonText {text : String} {d : Document}
    (accepted : Document.ofJsonText text = .ok d) :
    JsonText.read Document.read text = .ok d ∧ d.checkVersion = .ok () ∧ d.checkPaths = .ok () := by
  rw [Document.ofJsonText] at accepted
  cases read : JsonText.read Document.read text with
  | error f =>
    rw [read] at accepted
    cases accepted
  | ok d' =>
    rw [read] at accepted
    change d'.check = .ok d at accepted
    unfold Document.check at accepted
    cases version : d'.checkVersion with
    | error e =>
      rw [version] at accepted
      cases accepted
    | ok _ =>
      cases paths : d'.checkPaths with
      | error e =>
        rw [version,paths] at accepted
        cases accepted
      | ok _ =>
        rw [version,paths] at accepted
        obtain rfl := Except.ok.inj accepted
        exact ⟨rfl,version,paths⟩

theorem result_of_read {α : Type} {reading : Draft → Reading α} {text : String} {a : α}
    (read : JsonText.read reading text = .ok a) :
    (reading (JsonText.scan text).1).result 0 = .ok a := by
  unfold JsonText.read at read
  generalize JsonText.scan text = scanned at read ⊢
  obtain ⟨root,rest⟩ := scanned
  dsimp only at read ⊢
  cases made : (reading root).result 0 with
  | error f =>
    rw [made] at read
    cases read
  | ok b =>
    rw [made] at read
    cases rest with
    | none => cases read
    | some rest =>
      change (if (JsonText.skipBlanks rest).isEmpty then Except.ok b
        else .error Fault.malformed) = .ok a at read
      split at read
      · exact read
      · cases read

theorem pure_of_read {text : String} {d : Document}
    (read : JsonText.read Document.read text = .ok d) :
    Document.read (JsonText.scan text).1 = pure d := by
  have sure : (Document.read (JsonText.scan text).1).Sure :=
    (agree_fields document_matches).sure _ (JsonText.scan_scanned text)
  exact Reading.pure_of_result sure (result_of_read read)

theorem mem_pathItems {d : Document} {path : String} {item : PathItem}
    (member : (path,.item item) ∈ d.paths) (slash : path.toList.head? = some '/') :
    (path,item) ∈ d.pathItems := by
  have listed : isPathless path = false := by
    have prefixed : after? "x-" path = none := by
      obtain ⟨rest,same⟩ := List.head?_eq_some_iff.mp slash
      have x : "x-".toList = ['x','-'] := rfl
      rw [after?,same,x]
      rfl
    have parameters : path ≠ "parameters" := by
      rintro rfl
      exact absurd slash (by decide)
    have ref : path ≠ "$ref" := by
      rintro rfl
      exact absurd slash (by decide)
    simp [isPathless,prefixed,parameters,ref]
  rw [Document.pathItems,List.mem_filterMap]
  exact ⟨_,member,by simp [listed,PathEntry.item?]⟩

theorem checkEntry_ok {path : String} {kept : Json}
    (passed : Document.checkEntry path (.other kept) = .ok ())
    (slash : path.toList.head? = some '/') :
    ∃ item, (PathItem.read kept.toDraft).result 0 = .ok item := by
  rw [Document.checkEntry,if_pos slash] at passed
  cases rereads : (PathItem.read kept.toDraft).result 0 with
  | ok item => exact ⟨item,rfl⟩
  | error why =>
    rw [rereads] at passed
    cases passed

theorem checkEntry_error {path : String} {entry : PathEntry} {e : DocumentError}
    (failed : Document.checkEntry path entry = .error e) : ∃ kept why, entry = .other kept ∧
      path.toList.head? = some '/' ∧ (PathItem.read kept.toDraft).result 0 = .error why ∧
      e = .invalidPathItem path why := by
  cases entry with
  | item item => cases failed
  | other kept =>
    rw [Document.checkEntry] at failed
    split at failed
    · rename_i slash
      cases rereads : (PathItem.read kept.toDraft).result 0 with
      | ok item =>
        rw [rereads] at failed
        cases failed
      | error why =>
        rw [rereads] at failed
        exact ⟨kept,why,rfl,slash,rereads,(Except.error.inj failed).symm⟩
    · cases failed

theorem entry_value {text : String} {d : Document}
    (read : Document.read (JsonText.scan text).1 = pure d) {path : String} {entry : PathEntry}
    (member : (path,entry) ∈ d.paths) : ∃ room value, JsonText.pathValue? text path = some value ∧
      Scanned room value ∧ PathEntry.read value = pure entry := by
  have scanned := JsonText.scan_scanned text
  have filled := documentRecord.read_value (document_serves _)
    ⟨.of "paths" .defaulted (Draft.table PathEntry.read) fun v d => { d with paths := v },
      by simp [documentRecord],rfl⟩ (by decide) scanned read
  rw [JsonText.pathValue?]
  cases found : documentRecord.value? "paths" (JsonText.scan text).1 with
  | none =>
    rw [found] at filled
    have empty : d.paths = [] := filled
    simp [empty] at member
  | some paths =>
    rw [found] at filled
    have inside := documentRecord.value_scanned "paths" scanned found
    obtain ⟨room,members,rfl,each⟩ := table_gives inside agree_pathEntry.sure filled
    obtain ⟨value,last,below,gives⟩ := each path entry member
    exact ⟨_,value,last,below,gives⟩

theorem accepted_outcome {d : Document} (checked : d.checkPaths = .ok ()) {path : String}
    {entry : PathEntry} (member : (path,entry) ∈ d.paths) (slash : path.toList.head? = some '/')
    {room : Nat} {value : Draft} (scanned : Scanned room value)
    (gives : PathEntry.read value = pure entry) : PathOutcome d path value entry := by
  rcases pathEntry_gives scanned gives with ⟨item,rfl,reads⟩ | ⟨kept,fault,rfl,refused,keeps⟩
  · exact .item item (Reading.result_of_gives reads 0) (mem_pathItems member slash)
  · have passed := Document.forM_ok checked _ member
    obtain ⟨item,rereads⟩ := checkEntry_ok passed slash
    have repeated : value.distinctKeys = false := by
      rw [← Bool.not_eq_true]
      intro distinct
      exact (reads_of_kept scanned distinct keeps rereads).not_fails ⟨fault,refused⟩
    exact .dropped kept fault item (Reading.result_of_fails refused 0)
      (Reading.result_of_gives keeps 0) rereads repeated

theorem other_value {text : String} {d : Document}
    (read : Document.read (JsonText.scan text).1 = pure d) {path : String} {kept : Json}
    (member : (path,.other kept) ∈ d.paths) : ∃ value fault,
      JsonText.pathValue? text path = some value ∧
      (PathItem.read value).result 0 = .error fault ∧ value.keep.result 0 = .ok kept := by
  obtain ⟨room,value,last,scanned,gives⟩ := entry_value read member
  rcases pathEntry_gives scanned gives with ⟨item,other,_⟩ | ⟨kept',fault,same,refused,keeps⟩
  · cases other
  · obtain rfl := PathEntry.other.inj same
    exact ⟨value,fault,last,Reading.result_of_fails refused 0,Reading.result_of_gives keeps 0⟩

/-- Every value under a path of an accepted text becomes a path item, unless it repeats a key: it may then
read as none while what is kept of it does, and no endpoint comes from it. A text that reads as a
document of a supported version and is not accepted has a value under a path that is no path item
either way, and that is what is reported. -/
theorem slash_entries (text : String) :
    (∀ d, Document.ofJsonText text = .ok d → ∀ path entry, (path,entry) ∈ d.paths →
      path.toList.head? = some '/' → ∃ value, JsonText.pathValue? text path = some value ∧
        PathOutcome d path value entry) ∧
    ∀ d, JsonText.read Document.read text = .ok d → d.checkVersion = .ok () →
      Document.ofJsonText text ≠ .ok d → ∃ path value fault kept why,
        path.toList.head? = some '/' ∧ JsonText.pathValue? text path = some value ∧
        (PathItem.read value).result 0 = .error fault ∧ value.keep.result 0 = .ok kept ∧
        (PathItem.read kept.toDraft).result 0 = .error why ∧
        Document.ofJsonText text = .error (.invalidPathItem path why) := by
  constructor
  · intro d accepted path entry member slash
    obtain ⟨read,_,checked⟩ := read_of_ofJsonText accepted
    obtain ⟨room,value,last,scanned,gives⟩ := entry_value (pure_of_read read) member
    exact ⟨value,last,accepted_outcome checked member slash scanned gives⟩
  · intro d read version refused
    rw [ofJsonText_of_read read version] at refused ⊢
    cases checked : d.checkPaths with
    | ok _ => exact absurd (by rw [checked]; rfl) refused
    | error e =>
      obtain ⟨⟨path,entry⟩,member,failed⟩ := Document.forM_error checked
      obtain ⟨kept,why,rfl,slash,fails,rfl⟩ := checkEntry_error failed
      obtain ⟨value,fault,last,refused,keeps⟩ := other_value (pure_of_read read) member
      exact ⟨path,value,fault,kept,why,slash,last,refused,keeps,fails,rfl⟩

def repeatedGet : String :=
  "\x7b\"swagger\": \"2.0\", \"paths\": \x7b\"/pets\": \x7b\"get\": \x7b\x7d, \"get\": \x7b\x7d\x7d\x7d\x7d"

/-- A document with one path, under which no path item stands. -/
def textForItem : String :=
  "\x7b\"swagger\": \"2.0\", \"paths\": \x7b\"/pets\": \"none\"\x7d\x7d"

theorem repeatedGet_paths : ∃ d kept, Document.ofJsonText repeatedGet = .ok d ∧
    d.paths = [("/pets",.other kept)] := by
  have shape : ((Document.ofJsonText repeatedGet).toOption.map fun d =>
      d.paths.map fun entry => (entry.1,entry.2.item?.isSome)) = some [("/pets",false)] := by
    decide +kernel
  cases accepted : Document.ofJsonText repeatedGet with
  | error e =>
    rw [accepted] at shape
    cases shape
  | ok d =>
    rw [accepted] at shape
    obtain ⟨⟨path,entry⟩,paths,same⟩ := List.map_eq_singleton_iff.mp (Option.some.inj shape)
    obtain ⟨rfl,absent⟩ := Prod.mk.inj same
    cases entry with
    | item item => cases absent
    | other kept => exact ⟨d,kept,rfl,paths⟩

theorem textForItem_read : ∃ d, JsonText.read Document.read textForItem = .ok d ∧
    d.checkVersion = .ok () ∧ Document.ofJsonText textForItem ≠ .ok d := by
  have shape : ((JsonText.read Document.read textForItem).toOption.map fun d =>
      d.checkVersion.toOption.isSome) = some true := by decide +kernel
  have refused : (Document.ofJsonText textForItem).toOption.isNone := by decide +kernel
  cases read : JsonText.read Document.read textForItem with
  | error f =>
    rw [read] at shape
    cases shape
  | ok d =>
    rw [read] at shape
    refine ⟨d,rfl,?_,fun accepted => by rw [accepted] at refused; cases refused⟩
    cases version : d.checkVersion with
    | ok _ => rfl
    | error e =>
      simp [version,Except.toOption] at shape

/-- The repeated method is found in a value that becomes no path item, and a text in its place is
reported. -/
theorem slash_entries_pets :
    (∃ d kept value, Document.ofJsonText repeatedGet = .ok d ∧ d.paths = [("/pets",.other kept)] ∧
      JsonText.pathValue? repeatedGet "/pets" = some value ∧
      PathOutcome d "/pets" value (.other kept)) ∧
    ∃ path why, Document.ofJsonText textForItem = .error (.invalidPathItem path why) := by
  constructor
  · obtain ⟨d,kept,accepted,paths⟩ := repeatedGet_paths
    obtain ⟨value,last,outcome⟩ := (slash_entries repeatedGet).1 d accepted "/pets" (.other kept)
      (by simp [paths]) (by decide)
    exact ⟨d,kept,value,accepted,paths,last,outcome⟩
  · obtain ⟨d,read,version,refused⟩ := textForItem_read
    obtain ⟨path,_,_,_,why,_,_,_,_,_,reported⟩ := (slash_entries textForItem).2 d read version refused
    exact ⟨path,why,reported⟩

/-- An accepted document loses the endpoint under its only path. -/
theorem repeated_get_dropped : ∃ d kept, Document.ofJsonText repeatedGet = .ok d ∧
    ("/pets",PathEntry.other kept) ∈ d.paths ∧ d.pathItems = [] := by
  obtain ⟨d,kept,accepted,paths⟩ := repeatedGet_paths
  exact ⟨d,kept,accepted,by simp [paths],by simp [Document.pathItems,paths,PathEntry.item?]⟩

end FlowClient
