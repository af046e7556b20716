import FlowClient.Proofs.Agree

/-! Records, and values given by their names, read alike from twins. An object with keys that differ
gives a record whatever the order of its members: where every member can be read and no field is
missing. -/

namespace FlowClient

open Reading (Decides)

variable {α β σ τ : Type} {n n' : Nat}

/-- Fields of one name, to be given alike, with readers that agree. -/
structure Field.Matches (n n' : Nat) (f : Field σ) (g : Field τ) : Prop where
  name_eq : f.name = g.name
  presence_eq : f.presence = g.presence
  agree : Agree n n' f.read g.read

section Matches

variable {read : Draft → Reading α} {read' : Draft → Reading β}

theorem matches_of (name : String) (presence : Presence) (agree : Agree n n' read read')
    (set : α → σ → σ) (set' : β → τ → τ) :
    (Field.of name presence read set).Matches n n' (Field.of name presence read' set') :=
  ⟨rfl,rfl,fun _ _ _ _ below below' twin => (agree below below' twin).bind
    fun _ _ _ _ => .pure _ _⟩

theorem matches_maybe (name : String) (agree : Agree n n' read read')
    (set : Option α → σ → σ) (set' : Option β → τ → τ) :
    (Field.maybe name read set).Matches n n' (Field.maybe name read' set') :=
  matches_of name .optional agree.optional set set'

end Matches

/-- Every field that must be given is among those seen. -/
def Complete (fields : List (Field σ)) (seen : List String) : Prop :=
  ∀ f ∈ fields, f.presence = .required → f.name ∈ seen

theorem fill_closed_decides (fields : List (Field σ)) (seen : List String) (s : σ) :
    (Members.closed.fill fields seen s).Decides (Complete fields seen) := by
  rw [Members.fill]
  cases absent : missing? fields seen with
  | none =>
    apply Decides.pure s
    intro f member required
    have seen := List.find?_eq_none.mp absent f member
    simpa [required] using seen
  | some f =>
    apply Decides.fail
    intro complete
    have unseen := List.find?_some absent
    have member := List.mem_of_find?_eq_some absent
    simp only [Bool.and_eq_true,decide_eq_true_eq] at unseen
    simp [complete f member unseen.1] at unseen

section Fields

variable {fs : List (Field σ)} {gs : List (Field τ)} (fields : List.Forall₂ (Field.Matches n n') fs gs)

include fields

theorem complete_iff (seen : List String) : Complete fs seen ↔ Complete gs seen := by
  induction fields with
  | nil => simp [Complete]
  | cons same _ ih =>
    simp only [Complete,List.forall_mem_cons,same.name_eq,same.presence_eq] at ih ⊢
    rw [ih]

theorem find_matches (name : String) :
    (fs.find? (·.name == name) = none ∧ gs.find? (·.name == name) = none) ∨
      ∃ f g, fs.find? (·.name == name) = some f ∧ gs.find? (·.name == name) = some g ∧
        f.Matches n n' g := by
  induction fields with
  | nil => exact .inl ⟨rfl,rfl⟩
  | @cons f g _ _ same _ ih =>
    simp only [List.find?_cons,same.name_eq]
    split
    · exact .inr ⟨f,g,rfl,rfl,same⟩
    · exact ih

theorem endOfList_alike (expected expected' : String) (s : σ) (t : τ) (place place' : Nat) :
    (endOfList expected s place fs).Alike (endOfList expected' t place' gs) := by
  induction fields generalizing place place' with
  | nil => exact .pure s t
  | cons same _ ih =>
    simp only [endOfList,same.presence_eq]
    split
    · exact ih (place + 1) (place' + 1)
    · exact .fail _ _

variable {r r' : Nat} (below : r < n) (below' : r' < n')

include below below'

theorem Items.fill_alike (expected expected' : String) (surplus surplus' : Fault)
    (ending : Option Fault) (place place' : Nat) (s : σ) (t : τ) {xs ys : List Draft}
    (size : xs.length = ys.length) (each : ∀ pair ∈ xs.zip ys, Twin r r' pair.1 pair.2) :
    ((ofList ending xs).fill expected surplus place s fs).Alike
      ((ofList ending ys).fill expected' surplus' place' t gs) := by
  induction xs generalizing fs gs ys place place' s t with
  | nil =>
    obtain rfl := List.length_eq_zero_iff.mp size.symm
    cases ending with
    | none =>
      simp only [ofList,Option.elim,fill]
      exact endOfList_alike fields expected expected' s t place place'
    | some f => cases fields <;> exact .fail f f
  | cons x xs ih =>
    cases ys with
    | nil => simp at size
    | cons y ys =>
      cases fields with
      | nil => exact .fail surplus surplus'
      | cons same fields =>
        have here := same.agree below below' (each (x,y) (by simp))
        exact here.bind fun _ _ _ _ => ih fields _ _ _ _ (by simpa using size)
          fun pair member => each pair (by simp [member])

theorem Members.fill_ordered (ending : Option Fault) {ms ns : List (Draft × Draft)}
    (keys : ms.map Prod.fst = ns.map Prod.fst) (known : ∀ m ∈ ms, m.1.Key)
    (each : ∀ pair ∈ ms.zip ns, Twin r r' pair.1.2 pair.2.2) (seen : List String) (s : σ) (t : τ) :
    ((ofList ending ms).fill fs seen s).Alike ((ofList ending ns).fill gs seen t) := by
  induction ms generalizing ns seen s t with
  | nil =>
    obtain rfl := List.map_eq_nil_iff.mp keys.symm
    cases ending with
    | none =>
      have complete := fill_closed_decides fs seen s
      exact complete.alike (fill_closed_decides gs seen t) (complete_iff fields seen)
    | some f => exact .fail f f
  | cons m ms ih =>
    cases ns with
    | nil => simp at keys
    | cons n ns =>
      obtain ⟨k,x⟩ := m
      obtain ⟨l,y⟩ := n
      obtain ⟨same,rest⟩ := List.cons.inj keys
      obtain rfl : k = l := same
      have twin : Twin r r' x y := each ((k,x),k,y) (by simp)
      have later := ih rest (fun m member => known m (by simp [member]))
        fun pair member => each pair (by simp [member])
      cases known (k,x) (by simp) with
      | flawed f passed => exact .fails rfl rfl
      | text key =>
        simp only [ofList,fill,Draft.fieldOf?,pure_bind]
        rcases find_matches fields key with ⟨none,none'⟩ | ⟨f,g,found,found',same⟩
        · rw [none,none']
          exact twin.pass.bind fun _ _ _ _ => later seen s t
        · rw [found,found']
          simp only [same.name_eq]
          split
          · exact .fail _ _
          · exact (same.agree below below' twin).bind fun _ _ _ _ => later _ _ _

end Fields

def Members.taken (fields : List (Field σ)) (p : String × Draft) : Reading (σ → σ) :=
  match fields.find? (·.name == p.1) with
  | none => do
    p.2.pass
    return id
  | some f => f.read p.2

def Members.seenAfter (fields : List (Field σ)) (key : String) (seen : List String) : List String :=
  if (fields.find? (·.name == key)).isSome then key :: seen else seen

theorem Members.fill_named (fields : List (Field σ)) (p : String × Draft)
    (ps : List (String × Draft)) (seen : List String) (unseen : p.1 ∉ seen) (s : σ) :
    (ofPairs (p :: ps)).fill fields seen s = taken fields p >>= fun set =>
      (ofPairs ps).fill fields (seenAfter fields p.1 seen) (set s) := by
  change (cons (.scalar (.text p.1)) p.2 (ofPairs ps)).fill fields seen s = _
  simp only [fill,Draft.fieldOf?,pure_bind,taken,seenAfter]
  cases found : fields.find? (·.name == p.1) with
  | none => simp
  | some f =>
    have named : f.name = p.1 := by simpa using List.find?_some found
    simp [named,unseen]

theorem complete_seenAfter (fields : List (Field σ)) (key : String) (keys seen : List String) :
    Complete fields (keys ++ Members.seenAfter fields key seen) ↔
      Complete fields (key :: keys ++ seen) := by
  have known (f : Field σ) (member : f ∈ fields) (same : f.name = key) :
      (fields.find? (·.name == key)).isSome := by
    rw [List.find?_isSome]
    exact ⟨f,member,by simp [same]⟩
  apply forall_congr'
  intro f
  apply forall_congr'
  intro member
  by_cases same : f.name = key
  · simp [Members.seenAfter,known f member same,same]
  · rw [Members.seenAfter]
    split <;> simp [same]

/-- An object with keys that differ gives a record where each of its members can be read and no field
is missing. -/
theorem Members.fill_decides (fields : List (Field σ)) (ps : List (String × Draft))
    (distinct : (ps.map Prod.fst).Nodup) (seen : List String) (fresh : ∀ p ∈ ps, p.1 ∉ seen)
    (sure : ∀ p ∈ ps, (taken fields p).Sure) (s : σ) :
    ((ofPairs ps).fill fields seen s).Decides
      ((∀ p ∈ ps, (taken fields p).Gives) ∧ Complete fields (ps.map Prod.fst ++ seen)) := by
  induction ps generalizing seen s with
  | nil => exact (fill_closed_decides fields seen s).congr (by simp)
  | cons p ps ih =>
    obtain ⟨absent,distinct⟩ := List.nodup_cons.mp distinct
    have taken_sure := sure p (by simp)
    have unseen := fresh p (by simp)
    have later (set : σ → σ) := ih distinct (seenAfter fields p.1 seen) ?_
      (fun q member => sure q (by simp [member])) (set s)
    · rw [fill_named fields p ps seen unseen s]
      apply ((Decides.of_sure taken_sure).bind fun set _ => later set).congr
      rw [complete_seenAfter,List.forall_mem_cons,and_assoc,List.map_cons]
    · intro q member
      have apart : q.1 ≠ p.1 := fun same => absent (same ▸ List.mem_map_of_mem member)
      rw [seenAfter]
      split
      · simp [apart,fresh q (by simp [member])]
      · exact fresh q (by simp [member])

theorem taken_alike {fs : List (Field σ)} {gs : List (Field τ)}
    (fields : List.Forall₂ (Field.Matches n n') fs gs) {r r' : Nat} (below : r < n) (below' : r' < n')
    (key : String) {x y : Draft} (twin : Twin r r' x y) :
    (Members.taken fs (key,x)).Alike (Members.taken gs (key,y)) := by
  simp only [Members.taken]
  rcases find_matches fields key with ⟨none,none'⟩ | ⟨f,g,found,found',same⟩
  · rw [none,none']
    exact twin.pass.bind fun _ _ _ _ => .pure id id
  · rw [found,found']
    exact same.agree below below' twin

theorem Members.fill_shuffled {fs : List (Field σ)} {gs : List (Field τ)}
    (fields : List.Forall₂ (Field.Matches n n') fs gs) {r r' : Nat} (below : r < n) (below' : r' < n')
    {ps qs : List (String × Draft)} (keys : (ps.map Prod.fst).Perm (qs.map Prod.fst))
    (distinct : (ps.map Prod.fst).Nodup)
    (each : ∀ key x y, (key,x) ∈ ps → (key,y) ∈ qs → Twin r r' x y) (s : σ) (t : τ) :
    ((ofPairs ps).fill fs [] s).Alike ((ofPairs qs).fill gs [] t) := by
  have alike (key : String) (x y : Draft) (here : (key,x) ∈ ps) (there : (key,y) ∈ qs) :=
    taken_alike fields below below' key (each key x y here there)
  obtain ⟨sure,sure'⟩ := Reading.forall_keyed (P := fun p => (taken fs p).Sure)
    (Q := fun q => (taken gs q).Sure) keys fun key x y here there => (alike key x y here there).sure
  apply (fill_decides fs ps distinct [] (by simp) sure s).alike
    (fill_decides gs qs (keys.nodup_iff.mp distinct) [] (by simp) sure' t)
  apply and_congr
  · exact Reading.forall_keyed_iff keys fun key x y here there => (alike key x y here there).gives_iff
  · rw [complete_iff fields]
    simp only [Complete,List.append_nil,keys.mem_iff]

theorem Record.read_array (record : Record σ) (room : Nat) (f : Fault) (items : Items) :
    record.read (.array room (some f) items) = Reading.enter room >>= fun _ =>
      items.fill record.expectedList f 0 record.blank record.fields := by
  cases room <;> rfl

theorem Record.read_object (record : Record σ) (room : Nat) (members : Members) :
    record.read (.object room members) = Reading.enter room >>= fun _ =>
      members.fill record.fields [] record.blank := by
  cases room <;> rfl

/-- Records agree on one more level than their fields. -/
theorem agree_record {record : Record σ} {record' : Record τ}
    (fields : List.Forall₂ (Field.Matches n n') record.fields record'.fields) :
    Agree (n + 1) (n' + 1) record.read record'.read := by
  intro r r' x y below below' twin
  cases twin with
  | leaf simple => cases simple <;> exact .fails rfl rfl
  | @array _ _ _ _ ending _ _ rooms size each =>
    rw [Record.read_array,Record.read_array]
    apply enter_bind rooms
    intro positive positive'
    exact Items.fill_alike fields (by omega) (by omega) _ _ _ _ ending _ _ _ _ size each
  | @object _ _ ending _ _ rooms keys known each =>
    rw [Record.read_object,Record.read_object]
    apply enter_bind rooms
    intro positive positive'
    exact Members.fill_ordered fields (by omega) (by omega) ending keys known each _ _ _
  | shuffled rooms keys distinct each =>
    rw [Record.read_object,Record.read_object]
    apply enter_bind rooms
    intro positive positive'
    exact Members.fill_shuffled fields (by omega) (by omega) keys distinct each _ _

theorem agree_fields {record : Record σ}
    (fields : List.Forall₂ (Field.Matches n n') record.fields record.fields) :
    Agree n n' record.read record.read :=
  (agree_record fields).mono (Nat.le_succ n) (Nat.le_succ n')

theorem agree_readObject {record : Record σ} {record' : Record τ}
    (fields : List.Forall₂ (Field.Matches n n') record.fields record'.fields) :
    Agree (n + 1) (n' + 1) record.readObject record'.readObject := by
  intro r r' x y below below' twin
  have whole := agree_record fields below below' twin
  cases twin with
  | leaf simple => cases simple <;> exact .fails rfl rfl
  | array => exact .fails rfl rfl
  | _ => exact whole

section Variant

open Draft.variant (unit)

variable (emptyIsNull : Bool) (values : List (String × α))

theorem choose_sure (name : String) : (Draft.variant.choose values name).Sure := by
  rw [Draft.variant.choose]
  split
  · exact .inl (Reading.gives_pure _)
  · exact .inr (Reading.fails_fail _)

theorem key_sure {k : Draft} (known : k.Key) : (Draft.variant.key values k).Sure := by
  cases known with
  | text name => exact choose_sure values name
  | flawed f passed => exact .inr (Reading.fails_fail f)

theorem unit_object {r r' : Nat} (rooms : r = 0 ↔ r' = 0) (ending : Option Fault)
    {ms ns : List (Draft × Draft)} (size : ms.length = ns.length) :
    (unit emptyIsNull (.object r (.ofList ending ms))).Alike
      (unit emptyIsNull (.object r' (.ofList ending ns))) := by
  cases r with
  | zero =>
    obtain rfl := rooms.mp rfl
    exact .fails rfl rfl
  | succ room =>
    obtain ⟨room',rfl⟩ := Nat.exists_eq_succ_of_ne_zero fun none => Nat.succ_ne_zero _ (rooms.mpr none)
    cases ms with
    | nil =>
      obtain rfl := List.length_eq_zero_iff.mp size.symm
      cases ending with
      | none =>
        cases emptyIsNull with
        | true => exact .pure () ()
        | false => exact .fails rfl rfl
      | some f => exact .fails rfl rfl
    | cons m ms =>
      obtain ⟨n,ns,rfl⟩ := List.exists_cons_of_length_eq_add_one size.symm
      exact .fails rfl rfl

theorem Twin.unit {r r' : Nat} {x y : Draft} (twin : Twin r r' x y) :
    (unit emptyIsNull x).Alike (unit emptyIsNull y) := by
  cases twin with
  | leaf simple =>
    cases simple with
    | null => exact .pure () ()
    | _ => exact .fails rfl rfl
  | array => exact .fails rfl rfl
  | object rooms keys =>
    exact unit_object emptyIsNull rooms _ (by simpa using congrArg List.length keys)
  | shuffled rooms keys =>
    exact unit_object emptyIsNull rooms none (by simpa using keys.length_eq)

theorem variant_many_fails (room : Nat) (ending : Option Fault) (m m' : Draft × Draft)
    (ms : List (Draft × Draft)) (known : m.1.Key)
    (sure : (unit emptyIsNull m.2).Sure) :
    ((Draft.object (room + 1) (.ofList ending (m :: m' :: ms))).variant emptyIsNull values).Fails := by
  apply (key_sure values known).bind_fails
  intro a
  apply sure.bind_fails
  intro _
  exact ⟨_,rfl⟩

theorem variant_object {r r' : Nat} (rooms : r = 0 ↔ r' = 0) (ending : Option Fault)
    {ms ns : List (Draft × Draft)} (size : ms.length = ns.length)
    (heads : ∀ m ∈ ms, m.1.Key ∧ (unit emptyIsNull m.2).Sure)
    (heads' : ∀ n ∈ ns, n.1.Key ∧ (unit emptyIsNull n.2).Sure)
    (single : ∀ m n, ms = [m] → ns = [n] → m.1 = n.1 ∧
      (unit emptyIsNull m.2).Alike (unit emptyIsNull n.2)) :
    ((Draft.object r (.ofList ending ms)).variant emptyIsNull values).Alike
      ((Draft.object r' (.ofList ending ns)).variant emptyIsNull values) := by
  cases r with
  | zero =>
    obtain rfl := rooms.mp rfl
    exact .fails rfl rfl
  | succ room =>
    obtain ⟨room',rfl⟩ := Nat.exists_eq_succ_of_ne_zero fun none => Nat.succ_ne_zero _ (rooms.mpr none)
    match ms, ns, size with
    | [], [], _ => cases ending <;> exact .fails rfl rfl
    | [m], [n], _ =>
      obtain ⟨same,units⟩ := single m n rfl rfl
      obtain ⟨k,x⟩ := m
      obtain ⟨l,y⟩ := n
      obtain rfl : k = l := same
      have known := (heads (k,x) (by simp)).1
      apply (key_sure values known).self.bind
      intro a b _ _
      apply units.bind
      intro _ _ _ _
      cases ending with
      | none => exact .pure a b
      | some f => exact .fails rfl rfl
    | m :: m' :: ms, n :: n' :: ns, _ =>
      obtain ⟨known,sure⟩ := heads m (by simp)
      obtain ⟨known',sure'⟩ := heads' n (by simp)
      exact .inr ⟨variant_many_fails emptyIsNull values room ending m m' ms known sure,
        variant_many_fails emptyIsNull values room' ending n n' ns known' sure'⟩

theorem agree_variant :
    Agree n n' (Draft.variant emptyIsNull values) (Draft.variant emptyIsNull values) := by
  intro r r' x y _ _ twin
  cases twin with
  | leaf simple =>
    cases simple with
    | text s => exact (choose_sure values s).self
    | _ => exact .fails rfl rfl
  | array => exact .fails rfl rfl
  | @object _ _ ending ms ns rooms keys known each =>
    have size : ms.length = ns.length := by simpa using congrArg List.length keys
    have known' := known_of_keys keys known
    have units := Reading.forall_zip (P := fun m => (unit emptyIsNull m.2).Sure)
      (Q := fun n => (unit emptyIsNull n.2).Sure) size fun pair member =>
        ((each pair member).unit emptyIsNull).sure
    apply variant_object emptyIsNull values rooms ending size
    · exact fun m member => ⟨known m member,units.1 m member⟩
    · exact fun n member => ⟨known' n member,units.2 n member⟩
    · rintro m n rfl rfl
      exact ⟨(List.cons.inj keys).1,(each (m,n) (by simp)).unit emptyIsNull⟩
  | @shuffled _ _ ps qs rooms keys _ each =>
    have units := Reading.forall_keyed (P := fun p => (unit emptyIsNull p.2).Sure)
      (Q := fun q => (unit emptyIsNull q.2).Sure) keys fun key x y here there =>
        ((each key x y here there).unit emptyIsNull).sure
    apply variant_object emptyIsNull values rooms none (by simpa using keys.length_eq)
    · exact List.forall_mem_map.mpr fun p member => ⟨.text p.1,units.1 p member⟩
    · exact List.forall_mem_map.mpr fun q member => ⟨.text q.1,units.2 q member⟩
    · intro m n left right
      obtain ⟨p,rfl,rfl⟩ := List.map_eq_singleton_iff.mp left
      obtain ⟨q,rfl,rfl⟩ := List.map_eq_singleton_iff.mp right
      have same : p.1 = q.1 := by simpa using keys
      have twin := each p.1 p.2 q.2 (by simp) (by simp [same])
      exact ⟨congrArg (fun key => Draft.scalar (.text key)) same,twin.unit emptyIsNull⟩

end Variant

end FlowClient
