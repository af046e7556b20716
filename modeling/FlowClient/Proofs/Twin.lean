import FlowClient.Proofs.Draft

/-! Drafts that hold the same values, with other room inside and other faults for surplus items. Where the
keys of an object are texts that differ, its twin may hold the members in another order. Readings
cannot tell twins apart: they give values for both or end with faults for both. -/

namespace FlowClient

open Reading (Alike Sure Gives Fails)

inductive Draft.Leaf : Draft → Prop
  | null : Leaf (.scalar .null)
  | flag (b : Bool) : Leaf (.scalar (.flag b))
  | int (i : Int) : Leaf (.scalar (.int i))
  | float (x : Binary64) : Leaf (.scalar (.float (some x)))
  | text (s : String) : Leaf (.scalar (.text s))
  | flawed (f : Fault) (passed : Option Fault) : Leaf (.flawed f passed)

inductive Draft.Key : Draft → Prop
  | text (s : String) : Key (.scalar (.text s))
  | flawed (f : Fault) (passed : Option Fault) : Key (.flawed f passed)

inductive Twin : Nat → Nat → Draft → Draft → Prop
  | leaf {r r' : Nat} {x : Draft} (simple : x.Leaf) : Twin r r' x x
  | array {r r' : Nat} {f g : Fault} {ending : Option Fault} {xs ys : List Draft}
      (rooms : r = 0 ↔ r' = 0) (size : xs.length = ys.length)
      (each : ∀ pair ∈ xs.zip ys, Twin (r - 1) (r' - 1) pair.1 pair.2) :
      Twin r r' (.array r (some f) (.ofList ending xs)) (.array r' (some g) (.ofList ending ys))
  | object {r r' : Nat} {ending : Option Fault} {ms ns : List (Draft × Draft)}
      (rooms : r = 0 ↔ r' = 0) (keys : ms.map Prod.fst = ns.map Prod.fst)
      (known : ∀ m ∈ ms, m.1.Key)
      (each : ∀ pair ∈ ms.zip ns, Twin (r - 1) (r' - 1) pair.1.2 pair.2.2) :
      Twin r r' (.object r (.ofList ending ms)) (.object r' (.ofList ending ns))
  | shuffled {r r' : Nat} {ps qs : List (String × Draft)}
      (rooms : r = 0 ↔ r' = 0) (keys : (ps.map Prod.fst).Perm (qs.map Prod.fst))
      (distinct : (ps.map Prod.fst).Nodup)
      (each : ∀ key x y, (key,x) ∈ ps → (key,y) ∈ qs → Twin (r - 1) (r' - 1) x y) :
      Twin r r' (.object r (.ofPairs ps)) (.object r' (.ofPairs qs))

variable {α β : Type}

theorem finish_sure (ending : Option Fault) : (Reading.finish ending).Sure := by
  cases ending with
  | none => exact .inl (Reading.gives_pure ())
  | some f => exact .inr (Reading.fails_fail f)

theorem enter_alike {r r' : Nat} (rooms : r = 0 ↔ r' = 0) :
    (Reading.enter r).Alike (Reading.enter r') := by
  by_cases closed : r = 0
  · rw [closed,rooms.mp closed]
    exact .fail .malformed .malformed
  · rw [Reading.enter,Reading.enter,if_neg closed,if_neg fun none => closed (rooms.mpr none)]
    exact .pure () ()

/-- Twins are alike where they are once they are entered. -/
theorem enter_bind {r r' : Nat} (rooms : r = 0 ↔ r' = 0) {first : Reading α} {second : Reading β}
    (inner : r ≠ 0 → r' ≠ 0 → first.Alike second) :
    (Reading.enter r >>= fun _ => first).Alike (Reading.enter r' >>= fun _ => second) := by
  apply (enter_alike rooms).bind
  intro _ _ entered entered'
  exact inner (Reading.ne_zero_of_enter _ entered) (Reading.ne_zero_of_enter _ entered')

section Members

variable {f : Draft × Draft → Reading α} {g : Draft × Draft → Reading β} {R : Draft → Draft → Prop}
  (part : ∀ k x y, k.Key → R x y → (f (k,x)).Alike (g (k,y)))

include part

theorem ordered_alike {ms ns : List (Draft × Draft)} (keys : ms.map Prod.fst = ns.map Prod.fst)
    (known : ∀ m ∈ ms, m.1.Key) (each : ∀ pair ∈ ms.zip ns, R pair.1.2 pair.2.2) :
    (ms.mapM f).Alike (ns.mapM g) := by
  apply Alike.mapM (by simpa using congrArg List.length keys)
  rintro ⟨⟨k,x⟩,l,y⟩ member
  have same : (k,l) ∈ (ms.map Prod.fst).zip (ns.map Prod.fst) := by
    rw [List.zip_map]
    exact List.mem_map.mpr ⟨_,member,rfl⟩
  rw [keys] at same
  obtain rfl : k = l := Reading.forall_zip_self (P := fun pair => pair.1 = pair.2) (by simp) _ same
  exact part _ x y (known _ (List.of_mem_zip member).1) (each _ member)

theorem shuffled_alike {ps qs : List (String × Draft)}
    (keys : (ps.map Prod.fst).Perm (qs.map Prod.fst))
    (each : ∀ key x y, (key,x) ∈ ps → (key,y) ∈ qs → R x y) :
    ((ps.map Members.named).mapM f).Alike ((qs.map Members.named).mapM g) := by
  rw [List.mapM_map,List.mapM_map]
  apply Alike.mapM_keyed keys
  intro key x y here there
  exact part _ x y (.text key) (each key x y here there)

end Members

theorem flawed_pass_sure (f : Fault) (passed : Option Fault) : (Draft.flawed f passed).pass.Sure := by
  cases passed with
  | none => exact .inl (Reading.gives_pure ())
  | some g => exact .inr (Reading.fails_fail g)

theorem Draft.Key.pass_sure {k : Draft} (known : k.Key) : k.pass.Sure := by
  cases known with
  | text s => exact .inl (Reading.gives_pure ())
  | flawed f passed => exact flawed_pass_sure f passed

theorem Draft.Key.text_sure {k : Draft} (known : k.Key) : k.text.Sure := by
  cases known with
  | text s => exact .inl (Reading.gives_pure s)
  | flawed f passed => exact .inr (Reading.fails_fail f)

theorem Twin.pass {r r' : Nat} {x y : Draft} (twin : Twin r r' x y) : x.pass.Alike y.pass := by
  have part (k x y : Draft) (known : k.Key) (alike : x.pass.Alike y.pass) :
      (k.pass >>= fun _ => x.pass).Alike (k.pass >>= fun _ => y.pass) :=
    known.pass_sure.self.bind fun _ _ _ _ => alike
  induction twin with
  | leaf simple =>
    cases simple with
    | flawed f passed => exact (flawed_pass_sure f passed).self
    | _ => exact .pure () ()
  | @array _ _ _ _ ending _ _ _ size _ ih =>
    rw [Draft.pass,Draft.pass,Items.pass_ofList,Items.pass_ofList]
    exact (Alike.mapM size ih).bind fun _ _ _ _ => (finish_sure ending).self
  | @object _ _ ending _ _ _ keys known _ ih =>
    rw [Draft.pass,Draft.pass,Members.pass_ofList,Members.pass_ofList]
    exact (ordered_alike part keys known ih).bind fun _ _ _ _ => (finish_sure ending).self
  | shuffled _ keys _ _ ih =>
    rw [Draft.pass,Draft.pass,Members.ofPairs,Members.ofPairs,Members.pass_ofList,
      Members.pass_ofList]
    exact (shuffled_alike part keys ih).bind fun _ _ _ _ => (finish_sure none).self

section ReadAll

variable {read : Draft → Reading α} {read' : Draft → Reading β}

theorem entry_alike (k x y : Draft) (known : k.Key) (alike : (read x).Alike (read' y)) :
    Alike (do let key ← k.text; let a ← read x; return (key,a))
      (do let key ← k.text; let b ← read' y; return (key,b)) := by
  apply known.text_sure.self.bind
  intro key key' _ _
  apply alike.bind
  intro a b _ _
  exact .pure (key,a) (key',b)

theorem Items.readAll_alike (ending : Option Fault) {xs ys : List Draft}
    (size : xs.length = ys.length)
    (each : ∀ pair ∈ xs.zip ys, (read pair.1).Alike (read' pair.2)) :
    ((ofList ending xs).readAll read).Alike ((ofList ending ys).readAll read') := by
  rw [readAll_ofList,readAll_ofList]
  apply (Alike.mapM size each).bind
  intro as bs _ _
  apply (finish_sure ending).self.bind
  intro _ _ _ _
  exact .pure as bs

theorem Members.readAll_ordered (ending : Option Fault) {ms ns : List (Draft × Draft)}
    (keys : ms.map Prod.fst = ns.map Prod.fst) (known : ∀ m ∈ ms, m.1.Key)
    (each : ∀ pair ∈ ms.zip ns, (read pair.1.2).Alike (read' pair.2.2)) :
    ((ofList ending ms).readAll read).Alike ((ofList ending ns).readAll read') := by
  rw [readAll_ofList,readAll_ofList]
  apply (ordered_alike entry_alike keys known each).bind
  intro as bs _ _
  apply (finish_sure ending).self.bind
  intro _ _ _ _
  exact .pure as bs

theorem Members.readAll_shuffled {ps qs : List (String × Draft)}
    (keys : (ps.map Prod.fst).Perm (qs.map Prod.fst))
    (each : ∀ key x y, (key,x) ∈ ps → (key,y) ∈ qs → (read x).Alike (read' y)) :
    ((ofPairs ps).readAll read).Alike ((ofPairs qs).readAll read') := by
  rw [ofPairs,ofPairs,readAll_ofList,readAll_ofList]
  apply (shuffled_alike entry_alike keys each).bind
  intro as bs _ _
  exact .pure as bs

theorem Members.readAll_sure (ending : Option Fault) {ms : List (Draft × Draft)}
    (known : ∀ m ∈ ms, m.1.Key) (sure : ∀ m ∈ ms, (read m.2).Sure) :
    ((ofList ending ms).readAll read).Sure := by
  have same : ∀ pair ∈ ms.zip ms, (read pair.1.2).Alike (read pair.2.2) :=
    Reading.forall_zip_self fun m member => (sure m member).self
  exact (readAll_ordered ending rfl known same).left

/-- The entries are what the reader gives for the values under the same keys. -/
def Entries (read : Draft → Reading α) (ps : List (String × Draft)) (entries : List (String × α)) :
    Prop :=
  List.Forall₂ (fun p entry => p.1 = entry.1 ∧ read p.2 = pure entry.2) ps entries

/-- An object of which all members are read is whole, and its keys are texts. -/
theorem Members.readAll_gives {ending : Option Fault} {ms : List (Draft × Draft)}
    (known : ∀ m ∈ ms, m.1.Key) (sure : ∀ m ∈ ms, (read m.2).Sure) {entries : List (String × α)}
    (gives : (ofList ending ms).readAll read = pure entries) : ∃ ps,
      ofList ending ms = ofPairs ps ∧ (∀ p ∈ ps, named p ∈ ms) ∧ Entries read ps entries := by
  induction ms generalizing entries with
  | nil =>
    cases ending with
    | none =>
      obtain rfl : [] = entries := Reading.pure_inj gives
      exact ⟨[],rfl,by simp,.nil⟩
    | some f => exact absurd ⟨f,rfl⟩ (Gives.not_fails ⟨entries,gives⟩)
  | cons m ms ih =>
    obtain ⟨k,x⟩ := m
    have known' : ∀ m ∈ ms, m.1.Key := fun m member => known m (by simp [member])
    have sure' : ∀ m ∈ ms, (read m.2).Sure := fun m member => sure m (by simp [member])
    rw [ofList,readAll] at gives
    obtain ⟨key,text,gives⟩ := (known (k,x) (by simp)).text_sure.bind_gives gives
    obtain ⟨a,here,gives⟩ := (sure (k,x) (by simp)).bind_gives gives
    obtain ⟨rest,later,same⟩ := (readAll_sure ending known' sure').bind_gives gives
    obtain rfl := Reading.pure_inj same
    obtain ⟨ps,made,among,each⟩ := ih known' sure' later
    have named_eq : k = .scalar (.text key) := by
      cases known (k,x) (by simp) with
      | text s => exact congrArg (fun s => Draft.scalar (.text s)) (Reading.pure_inj text)
      | flawed f passed => exact absurd ⟨f,rfl⟩ (Gives.not_fails ⟨key,text⟩)
    subst named_eq
    refine ⟨(key,x) :: ps,?_,?_,.cons ⟨rfl,here⟩ each⟩
    · rw [ofList,made]
      rfl
    · exact List.forall_mem_cons.mpr ⟨List.mem_cons_self,
        fun p member => List.mem_cons_of_mem _ (among p member)⟩

theorem Entries.keys {ps : List (String × Draft)} {entries : List (String × α)}
    (each : Entries read ps entries) : ps.map Prod.fst = entries.map Prod.fst := by
  induction each with
  | nil => rfl
  | cons same _ ih => rw [List.map_cons,List.map_cons,same.1,ih]

theorem Entries.mem {ps : List (String × Draft)} {entries : List (String × α)}
    (each : Entries read ps entries) {key : String} {x : Draft} (member : (key,x) ∈ ps) :
    ∃ a, (key,a) ∈ entries ∧ read x = pure a := by
  induction each with
  | nil => simp at member
  | @cons p entry _ _ same _ ih =>
    rcases List.mem_cons.mp member with rfl | member
    · exact ⟨entry.2,List.mem_cons.mpr (.inl (Prod.ext same.1 rfl)),same.2⟩
    · obtain ⟨a,found,given⟩ := ih member
      exact ⟨a,List.mem_cons_of_mem _ found,given⟩

theorem Entries.lookup {ps : List (String × Draft)} {entries : List (String × α)}
    (each : Entries read ps entries) {key : String} {a : α} (found : entries.lookup key = some a) :
    ∃ x, ps.lookup key = some x ∧ read x = pure a := by
  induction each with
  | nil => simp at found
  | @cons p entry _ _ same _ ih =>
    obtain ⟨name,x⟩ := p
    obtain ⟨name',b⟩ := entry
    obtain ⟨rfl,given⟩ := same
    rw [List.lookup_cons] at found ⊢
    cases same : key == name with
    | true =>
      rw [same] at found
      obtain rfl := Option.some.inj found
      exact ⟨x,rfl,given⟩
    | false =>
      rw [same] at found
      exact ih found

theorem Entries.reverse {ps : List (String × Draft)} {entries : List (String × α)}
    (each : Entries read ps entries) : Entries read ps.reverse entries.reverse :=
  List.rel_reverse each

end ReadAll

theorem Draft.Leaf.keep_sure {x : Draft} (simple : x.Leaf) : x.keep.Sure := by
  cases simple with
  | flawed f passed => exact .inr (Reading.fails_fail f)
  | _ => exact .inl (Reading.gives_pure _)

theorem Twin.keep {r r' : Nat} {x y : Draft} (twin : Twin r r' x y) : x.keep.Alike y.keep := by
  induction twin with
  | leaf simple => exact simple.keep_sure.self
  | @array _ _ _ _ ending _ _ rooms size _ ih =>
    rw [Draft.keep_array,Draft.keep_array,Items.keep_eq,Items.keep_eq]
    apply enter_bind rooms
    intro _ _
    exact (Items.readAll_alike ending size ih).map _ _
  | @object _ _ ending _ _ rooms keys known _ ih =>
    rw [Draft.keep_object,Draft.keep_object,Members.keep_eq,Members.keep_eq]
    apply enter_bind rooms
    intro _ _
    exact (Members.readAll_ordered ending keys known ih).map _ _
  | shuffled rooms keys _ _ ih =>
    rw [Draft.keep_object,Draft.keep_object,Members.ofPairs,Members.ofPairs,Members.keep_eq,
      Members.keep_eq]
    apply enter_bind rooms
    intro _ _
    exact (Members.readAll_shuffled keys ih).map _ _

def Draft.Settled (x : Draft) : Prop := x.settle = pure x ∨ x.settle.Fails

theorem Draft.Settled.sure {x : Draft} (settled : x.Settled) : x.settle.Sure :=
  settled.imp (fun same => ⟨x,same⟩) id

theorem Draft.Settled.eq {x y : Draft} (settled : x.Settled) (made : x.settle = pure y) : x = y := by
  rcases settled with same | fails
  · exact Reading.pure_inj (same.symm.trans made)
  · exact absurd fails (Gives.not_fails ⟨y,made⟩)

theorem mapM_settled {ι : Type} {settle : ι → Reading ι} {items : List ι}
    (each : ∀ item ∈ items, settle item = pure item ∨ (settle item).Fails) :
    items.mapM settle = pure items ∨ (items.mapM settle).Fails := by
  induction items with
  | nil => exact .inl rfl
  | cons item items ih =>
    rw [List.mapM_cons]
    rcases each item (by simp) with same | fails
    · rw [same,pure_bind]
      rcases ih fun other member => each other (by simp [member]) with same | fails
      · rw [same]
        exact .inl rfl
      · exact .inr (fails.bind _)
    · exact .inr (fails.bind _)

theorem finish_settled {ι : Type} {r : Reading (List ι)} {items : List ι} (ending : Option Fault)
    (make : List ι → α) (settled : r = pure items ∨ r.Fails) :
    (do let made ← r; Reading.finish ending; return make made) = pure (make items) ∨
      Fails (do let made ← r; Reading.finish ending; return make made) := by
  rcases settled with same | fails
  · rw [same,pure_bind]
    cases ending with
    | none => exact .inl rfl
    | some f => exact .inr (Reading.fails_fail f)
  · exact .inr (fails.bind _)

theorem Items.settled (ending : Option Fault) {xs : List Draft} (each : ∀ x ∈ xs, x.Settled) :
    (ofList ending xs).settle = pure (ofList ending xs) ∨ (ofList ending xs).settle.Fails := by
  rw [settle_ofList]
  exact finish_settled ending (ofList ending) (mapM_settled each)

theorem Members.settled (ending : Option Fault) {ms : List (Draft × Draft)}
    (known : ∀ m ∈ ms, m.1.Key) (each : ∀ m ∈ ms, m.2.Settled) :
    (ofList ending ms).settle = pure (ofList ending ms) ∨ (ofList ending ms).settle.Fails := by
  have entry (m : Draft × Draft) (member : m ∈ ms) :
      (do let key ← m.1.settle; let d ← m.2.settle; return (key,d)) = (pure m : Reading _) ∨
        (do let key ← m.1.settle; let d ← m.2.settle; return (key,d) : Reading _).Fails := by
    obtain ⟨k,d⟩ := m
    have settled := each _ member
    cases known _ member with
    | text s =>
      have made : (Draft.scalar (.text s)).settle = pure (.scalar (.text s)) := rfl
      simp only [made,pure_bind]
      rcases settled with same | fails
      · exact .inl (by simp only [same,pure_bind])
      · exact .inr (fails.bind _)
    | flawed f passed => exact .inr ⟨f,rfl⟩
  rw [settle_ofList]
  exact finish_settled ending (ofList ending) (mapM_settled entry)

theorem Draft.Leaf.settled {x : Draft} (simple : x.Leaf) : x.Settled := by
  cases simple with
  | flawed f passed => exact .inr (Reading.fails_fail f)
  | _ => exact .inl rfl

theorem enter_settled {r : Reading α} {a : α} (room : Nat) (make : α → β)
    (settled : r = pure a ∨ r.Fails) :
    (Reading.enter room >>= fun _ => make <$> r) = pure (make a) ∨
      (Reading.enter room >>= fun _ => make <$> r).Fails := by
  by_cases closed : room = 0
  · exact .inr ⟨.malformed,by rw [Reading.enter,if_pos closed]; rfl⟩
  · rw [Reading.enter,if_neg closed,pure_bind]
    rcases settled with same | ⟨f,fails⟩
    · exact .inl (by rw [same,map_pure])
    · exact .inr ⟨f,by rw [fails]; rfl⟩

theorem Draft.settled_array (room : Nat) (f : Fault) {ending : Option Fault} {xs : List Draft}
    (each : ∀ x ∈ xs, x.Settled) : (array room (some f) (.ofList ending xs)).Settled := by
  rw [Settled,settle_array]
  exact enter_settled room _ (Items.settled ending each)

theorem Draft.settled_object (room : Nat) {ending : Option Fault} {ms : List (Draft × Draft)}
    (known : ∀ m ∈ ms, m.1.Key) (each : ∀ m ∈ ms, m.2.Settled) :
    (object room (.ofList ending ms)).Settled := by
  rw [Settled,settle_object]
  exact enter_settled room _ (Members.settled ending known each)

theorem named_key {ps : List (String × Draft)} : ∀ m ∈ ps.map Members.named, m.1.Key := by
  intro m member
  obtain ⟨p,_,rfl⟩ := List.mem_map.mp member
  exact .text p.1

theorem known_of_keys {ms ns : List (Draft × Draft)} (keys : ms.map Prod.fst = ns.map Prod.fst)
    (known : ∀ m ∈ ms, m.1.Key) : ∀ n ∈ ns, n.1.Key := by
  intro n member
  have named : n.1 ∈ ms.map Prod.fst := keys ▸ List.mem_map_of_mem member
  obtain ⟨m,found,same⟩ := List.mem_map.mp named
  exact same ▸ known m found

theorem Twin.settled {r r' : Nat} {x y : Draft} (twin : Twin r r' x y) :
    x.Settled ∧ y.Settled := by
  induction twin with
  | leaf simple => exact ⟨simple.settled,simple.settled⟩
  | array rooms size _ ih =>
    obtain ⟨left,right⟩ := Reading.forall_zip size ih
    exact ⟨Draft.settled_array _ _ left,Draft.settled_array _ _ right⟩
  | @object _ _ _ ms ns rooms keys known _ ih =>
    have size : ms.length = ns.length := by simpa using congrArg List.length keys
    obtain ⟨left,right⟩ := Reading.forall_zip (P := fun m => m.2.Settled) (Q := fun m => m.2.Settled) size ih
    have known' := known_of_keys keys known
    exact ⟨Draft.settled_object _ known left,Draft.settled_object _ known' right⟩
  | @shuffled _ _ ps qs rooms keys _ _ ih =>
    obtain ⟨left,right⟩ := Reading.forall_keyed (P := fun p => p.2.Settled)
      (Q := fun q => q.2.Settled) keys ih
    exact ⟨Draft.settled_object _ named_key (List.forall_mem_map.mpr left),
      Draft.settled_object _ named_key (List.forall_mem_map.mpr right)⟩

theorem Twin.settle {r r' : Nat} {x y : Draft} (twin : Twin r r' x y) :
    x.settle.Alike y.settle := by
  have part (k x y : Draft) (known : k.Key) (alike : x.settle.Alike y.settle) :
      Alike (do let key ← k.settle; let d ← x.settle; return (key,d))
        (do let key ← k.settle; let d ← y.settle; return (key,d)) := by
    have settled : k.settle.Sure := by
      cases known with
      | text s => exact .inl ⟨_,rfl⟩
      | flawed f passed => exact .inr ⟨f,rfl⟩
    apply settled.self.bind
    intro key key' _ _
    exact alike.bind fun d d' _ _ => .pure (key,d) (key',d')
  induction twin with
  | leaf simple => exact simple.settled.sure.self
  | @array _ _ _ _ ending _ _ rooms size _ ih =>
    rw [Draft.settle_array,Draft.settle_array,Items.settle_ofList,Items.settle_ofList]
    apply enter_bind rooms
    intro _ _
    apply Alike.map
    apply (Alike.mapM size ih).bind
    intro xs ys _ _
    exact (finish_sure ending).self.bind fun _ _ _ _ => .pure _ _
  | @object _ _ ending _ _ rooms keys known _ ih =>
    rw [Draft.settle_object,Draft.settle_object,Members.settle_ofList,Members.settle_ofList]
    apply enter_bind rooms
    intro _ _
    apply Alike.map
    apply (ordered_alike part keys known ih).bind
    intro ms ns _ _
    exact (finish_sure ending).self.bind fun _ _ _ _ => .pure _ _
  | shuffled rooms keys _ _ ih =>
    rw [Draft.settle_object,Draft.settle_object,Members.ofPairs,Members.ofPairs,
      Members.settle_ofList,Members.settle_ofList]
    apply enter_bind rooms
    intro _ _
    apply Alike.map
    apply (shuffled_alike part keys ih).bind
    intro ms ns _ _
    exact .pure _ _

end FlowClient
