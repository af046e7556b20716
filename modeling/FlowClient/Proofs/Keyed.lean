import FlowClient.Proofs.PathEntries
import Mathlib.Tactic.MkIffOfInductiveProp

/-! Documents that are read. Their tables hold each name once: what all fields of a record keep is kept by
reading the record, whatever the draft it is read from. -/

namespace FlowClient

/-- No table of the document holds a name twice. -/
@[mk_iff] structure Document.Keyed (d : Document) : Prop where
  paths : d.paths.names.Nodup
  definitions : d.definitions.names.Nodup
  parameters : d.parameters.names.Nodup

instance (d : Document) : Decidable d.Keyed := decidable_of_iff' _ (Document.keyed_iff d)

/-- Whatever the reading gives has the property. -/
def Reading.Only {α : Type} (r : Reading α) (P : α → Prop) : Prop :=
  ∀ left a after, r.run left = .ok (a,after) → P a

def Field.Keeps {σ : Type} (P : σ → Prop) (f : Field σ) : Prop :=
  ∀ d, (f.read d).Only fun set => ∀ s, P s → P (set s)

namespace Reading.Only

variable {α β : Type} {P : α → Prop} {Q : β → Prop}

theorem pure {a : α} (holds : P a) : Only (Pure.pure a) P := by
  intro left b after given
  cases given
  exact holds

theorem fail (f : Fault) : Only (Reading.fail f) P := by
  intro left a after given
  cases given

theorem bind {r : Reading α} {next : α → Reading β} (first : r.Only P)
    (rest : ∀ a, P a → (next a).Only Q) : (r >>= next).Only Q := by
  intro left b after given
  rw [StateT.run_bind] at given
  cases here : r.run left with
  | error f =>
    rw [here] at given
    cases given
  | ok result =>
    obtain ⟨a,between⟩ := result
    rw [here] at given
    exact rest a (first left a between here) between b after given

theorem any (r : Reading α) : r.Only fun _ => True := fun _ _ _ _ => trivial

end Reading.Only

section Records

variable {σ α : Type} {P : σ → Prop} {fields : List (Field σ)}

theorem Field.of_keeps {name : String} {presence : Presence} {read : Draft → Reading α}
    {set : α → σ → σ} {Q : α → Prop} (only : ∀ d, (read d).Only Q)
    (keeps : ∀ v, Q v → ∀ s, P s → P (set v s)) : (Field.of name presence read set).Keeps P :=
  fun d => (only d).bind fun v holds => .pure (keeps v holds)

theorem Draft.refuse_only {Q : α → Prop} (d : Draft) (expected : String) :
    (d.refuse expected).Only Q := by
  cases d <;> exact .fail _

theorem Draft.fieldOf?_only : ∀ k : Draft,
    (k.fieldOf? fields).Only fun found => ∀ f, found = some f → f ∈ fields
  | .scalar (.text s) => .pure fun f found => List.mem_of_find?_eq_some found
  | .scalar (.loose s _ _) => .pure fun f found => List.mem_of_find?_eq_some found
  | .scalar (.int i) => by
    unfold Draft.fieldOf?
    split
    · exact .pure fun f found => List.mem_of_getElem? found
    · exact Draft.refuse_only _ _
  | .scalar .null | .scalar (.flag _) | .scalar (.float _) => Draft.refuse_only _ _
  | .array _ _ _ | .object _ _ | .flawed _ _ => Draft.refuse_only _ _
  | .tagged _ d => Draft.fieldOf?_only d
  | .deferred d => (Reading.Only.any _).bind fun _ _ => Draft.fieldOf?_only (d ())

variable (keeps : ∀ f ∈ fields, f.Keeps P)

include keeps

theorem Members.fill_only : ∀ (members : Members) (seen : List String) (s : σ), P s →
    (members.fill fields seen s).Only P
  | .closed, seen, s, holds => by
    unfold Members.fill
    split
    · exact .fail _
    · exact .pure holds
  | .cut f, _, _, _ => .fail f
  | .cons k d rest, seen, s, holds => by
    refine (Draft.fieldOf?_only k).bind fun found listed => ?_
    cases found with
    | none => exact (Reading.Only.any _).bind fun _ _ => Members.fill_only rest seen s holds
    | some f =>
      dsimp only
      split
      · exact .fail _
      · exact (keeps f (listed f rfl) d).bind fun set kept =>
          Members.fill_only rest _ (set s) (kept s holds)

omit keeps in
theorem endOfList_only (expected : String) (s : σ) (holds : P s) (place : Nat) :
    (endOfList expected s place fields).Only P := by
  induction fields generalizing place with
  | nil => exact .pure holds
  | cons f rest ih =>
    unfold endOfList
    split
    · exact ih _
    · exact .fail _

omit keeps in
theorem Items.fill_only (expected : String) (surplus : Fault) :
    ∀ (items : Items) (place : Nat) (s : σ) (fields : List (Field σ)),
      (∀ f ∈ fields, f.Keeps P) → P s → (items.fill expected surplus place s fields).Only P
  | .closed, place, s, fields, _, holds => by
    cases fields <;> exact endOfList_only expected s holds place
  | .cut f, _, _, fields, _, _ => by
    cases fields <;> exact .fail f
  | .cons d rest, place, s, [], _, _ => .fail surplus
  | .cons d rest, place, s, f :: fields, keeps, holds =>
    (keeps f (by simp) d).bind fun set kept => Items.fill_only expected surplus rest _ (set s) fields
      (fun f member => keeps f (by simp [member])) (kept s holds)

omit keeps in
/-- What the blank record has and every field keeps is had by each record that is read. -/
theorem Record.read_only (r : Record σ) (keeps : ∀ f ∈ r.fields, f.Keeps P) (blank : P r.blank) :
    ∀ d, (r.read d).Only P
  | .array room none items => Draft.refuse_only _ _
  | .array 0 (some _) _ => .fail _
  | .array (_ + 1) (some surplus) items => Items.fill_only _ surplus items 0 r.blank r.fields keeps blank
  | .object 0 _ => .fail _
  | .object (_ + 1) members => Members.fill_only keeps members [] r.blank blank
  | .tagged _ d => Record.read_only r keeps blank d
  | .deferred d => (Reading.Only.any _).bind fun _ _ => Record.read_only r keeps blank (d ())
  | .scalar value => by
    unfold Record.read
    split
    · exact Members.fill_only keeps .closed [] r.blank blank
    · exact Draft.refuse_only _ _
  | .flawed read passed => by
    unfold Record.read
    split
    · exact Members.fill_only keeps .closed [] r.blank blank
    · exact Draft.refuse_only _ _

end Records

theorem Draft.table_only {α : Type} (read : Draft → Reading α) (d : Draft) :
    (d.table read).Only fun t => t.names.Nodup :=
  (Reading.Only.any _).bind fun _ _ => (Reading.Only.any _).bind fun entries _ =>
    .pure (Table.ofEntries_nodup entries)

theorem Document.read_only (d : Draft) : (Document.read d).Only Document.Keyed := by
  have other {α : Type} {name : String} {presence : Presence} {read : Draft → Reading α}
      {set : α → Document → Document} (same : ∀ v d, (set v d).paths = d.paths ∧
        (set v d).definitions = d.definitions ∧ (set v d).parameters = d.parameters) :
      (Field.of name presence read set).Keeps Document.Keyed := by
    refine Field.of_keeps (fun d => Reading.Only.any _) fun v _ s keyed => ?_
    obtain ⟨paths,definitions,parameters⟩ := same v s
    exact ⟨paths ▸ keyed.paths,definitions ▸ keyed.definitions,parameters ▸ keyed.parameters⟩
  refine Record.read_only documentRecord ?_ ⟨List.nodup_nil,List.nodup_nil,List.nodup_nil⟩ d
  simp only [documentRecord,List.forall_mem_cons]
  refine ⟨other ?_,other ?_,other ?_,other ?_,other ?_,other ?_,other ?_,?_,?_,?_,other ?_,List.forall_mem_nil _⟩
  case refine_8 =>
    exact Field.of_keeps (Draft.table_only _) fun _ distinct _ keyed =>
      ⟨distinct,keyed.definitions,keyed.parameters⟩
  case refine_9 =>
    exact Field.of_keeps (Draft.table_only _) fun _ distinct _ keyed =>
      ⟨keyed.paths,distinct,keyed.parameters⟩
  case refine_10 =>
    exact Field.of_keeps (Draft.table_only _) fun _ distinct _ keyed =>
      ⟨keyed.paths,keyed.definitions,distinct⟩
  all_goals
    intro _ _
    exact ⟨rfl,rfl,rfl⟩

theorem Reading.Only.result {α : Type} {r : Reading α} {P : α → Prop} (only : r.Only P)
    {lookups : Nat} {a : α} (given : r.result lookups = .ok a) : P a := by
  unfold Reading.result at given
  cases here : r.run lookups with
  | error f =>
    rw [here] at given
    cases given
  | ok result =>
    obtain ⟨b,after⟩ := result
    rw [here] at given
    obtain rfl := Except.ok.inj given
    exact only lookups b after here

theorem Document.check_eq {d e : Document} (checked : d.check = .ok e) : e = d := by
  unfold Document.check at checked
  cases version : d.checkVersion with
  | error why =>
    rw [version] at checked
    cases checked
  | ok =>
    cases paths : d.checkPaths with
    | error why =>
      rw [version,paths] at checked
      cases checked
    | ok =>
      rw [version,paths] at checked
      cases checked
      rfl

theorem ofJsonText_keyed {text : String} {d : Document} (accepted : Document.ofJsonText text = .ok d) :
    d.Keyed :=
  (Document.read_only _).result (result_of_read (read_of_ofJsonText accepted).1)

theorem ofYamlText_keyed {text : String} {d : Document} (accepted : Document.ofYamlText text = .ok d) :
    d.Keyed := by
  unfold Document.ofYamlText at accepted
  cases read : Yaml.read Document.read text with
  | error f =>
    rw [read] at accepted
    cases accepted
  | ok e =>
    rw [read] at accepted
    rw [Document.check_eq accepted]
    unfold Yaml.read at read
    split at read
    · cases read
    · exact (Document.read_only _).result read

end FlowClient
