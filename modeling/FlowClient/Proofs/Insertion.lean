import FlowClient.Proofs.AgreeRecord
import FlowClient.Proofs.JsonDraft

/-! Members of objects under keys that name none of their fields. What reads the parts of a value without them reads the
value without them: the same value comes out of it, or the same fault. -/

namespace FlowClient

open Reading (fail)

/-- The objects of a path item that are read field by field. -/
inductive Kind
  | schema
  | parameter
  | response
  | operation
  | pathItem

/-- What stands at a place: a value that is read whole, an object of fields, or more of its kind in a list or under keys
of their own. -/
inductive Part
  | plain
  | record (kind : Kind)
  | list (part : Part)
  | table (part : Part)

namespace Kind

/-- The fields in order, and what stands under each. -/
def fields : Kind → List (String × Part)
  | schema => [("$ref",.plain),("type",.plain),("format",.plain),("title",.plain),("description",.plain),
      ("properties",.table (.record schema)),("required",.plain),("items",.record schema),
      ("allOf",.list (.record schema)),("enum",.plain),("default",.plain),("example",.plain)]
  | parameter => [("name",.plain),("in",.plain),("description",.plain),("required",.plain),
      ("schema",.record schema),("type",.plain),("format",.plain),("items",.record schema),("enum",.plain),
      ("collectionFormat",.plain)]
  | response => [("$ref",.plain),("description",.plain),("schema",.record schema)]
  | operation => [("operationId",.plain),("summary",.plain),("description",.plain),("tags",.plain),
      ("consumes",.plain),("parameters",.list (.record parameter)),("responses",.table (.record response)),
      ("deprecated",.plain)]
  | pathItem => [("$ref",.plain),("parameters",.list (.record parameter)),("get",.record operation),
      ("put",.record operation),("post",.record operation),("delete",.record operation),
      ("options",.record operation),("patch",.record operation)]

/-- The keys that count: the names of the fields, and where a parameter stands that of a reference. -/
def keys (k : Kind) : List String :=
  k.fields.map Prod.fst ++ match k with
    | parameter => ["$ref"]
    | _ => []

def part (k : Kind) (key : String) : Part := (k.fields.lookup key).getD .plain

/-- The entries are among those of the kind's fields and other keys that count. -/
def Counts (k : Kind) (entries : List (String × Part)) : Prop :=
  ∀ key part, entries.lookup key = some part → key ∈ k.keys ∧ k.part key = part

theorem counts_fields (k : Kind) : k.Counts k.fields := by
  intro key part listed
  have named : key ∈ k.fields.map Prod.fst := List.mem_map_of_mem (f := Prod.fst) (mem_of_lookup listed)
  exact ⟨List.mem_append_left _ named,by rw [Kind.part,listed,Option.getD_some]⟩

end Kind

/-- The second value is the first with one more member, in an object of fields somewhere in it, under a key that does
not count there. -/
inductive Inserted : Part → Json → Json → Prop
  | here {k : Kind} {key : String} {value : Json} {before after : List (String × Json)}
    (foreign : key ∉ k.keys) : Inserted (.record k) (.obj (before ++ after)) (.obj (before ++ (key,value) :: after))
  | member {k : Kind} {key : String} {x y : Json} {before after : List (String × Json)}
    (inside : Inserted (k.part key) x y) :
    Inserted (.record k) (.obj (before ++ (key,x) :: after)) (.obj (before ++ (key,y) :: after))
  /-- A list may give the fields in their order. -/
  | place {k : Kind} {name : String} {part : Part} {x y : Json} {before after : List Json}
    (stands : k.fields[before.length]? = some (name,part)) (inside : Inserted part x y) :
    Inserted (.record k) (.arr (before ++ x :: after)) (.arr (before ++ y :: after))
  | item {p : Part} {x y : Json} {before after : List Json} (inside : Inserted p x y) :
    Inserted (.list p) (.arr (before ++ x :: after)) (.arr (before ++ y :: after))
  | entry {p : Part} {key : String} {x y : Json} {before after : List (String × Json)}
    (inside : Inserted p x y) :
    Inserted (.table p) (.obj (before ++ (key,x) :: after)) (.obj (before ++ (key,y) :: after))

def Related (p : Part) (x y : Json) : Prop := x = y ∨ Inserted p x y

section Related

variable {p : Part} {k : Kind}

theorem Related.refl (x : Json) : Related p x x := .inl rfl

/-- The members of two objects of one kind: those that count are related. -/
inductive Grown (k : Kind) : List (String × Json) → List (String × Json) → Prop
  | nil : Grown k [] []
  | keep {key : String} {x y : Json} {ms ns : List (String × Json)} (inside : Related (k.part key) x y)
    (rest : Grown k ms ns) : Grown k ((key,x) :: ms) ((key,y) :: ns)
  | extra {key : String} {value : Json} {ms ns : List (String × Json)} (foreign : key ∉ k.keys)
    (rest : Grown k ms ns) : Grown k ms ((key,value) :: ns)

theorem Grown.after (before : List (String × Json)) {ms ns : List (String × Json)} (rest : Grown k ms ns) :
    Grown k (before ++ ms) (before ++ ns) := by
  induction before with
  | nil => exact rest
  | cons m before ih => exact .keep (.refl m.2) ih

theorem Grown.refl (ms : List (String × Json)) : Grown k ms ms := by
  induction ms with
  | nil => exact .nil
  | cons m ms ih => exact .keep (.refl m.2) ih

/-- The items of two lists that give fields in their order. Those without a field may be anything. -/
inductive Placed : List (String × Part) → List Json → List Json → Prop
  | nil (entries : List (String × Part)) : Placed entries [] []
  | item {name : String} {part : Part} {entries : List (String × Part)} {x y : Json} {xs ys : List Json}
    (inside : Related part x y) (rest : Placed entries xs ys) :
    Placed ((name,part) :: entries) (x :: xs) (y :: ys)
  | surplus {x y : Json} {xs ys : List Json} (rest : Placed [] xs ys) : Placed [] (x :: xs) (y :: ys)

theorem Placed.refl (entries : List (String × Part)) (xs : List Json) : Placed entries xs xs := by
  induction xs generalizing entries with
  | nil => exact .nil entries
  | cons x xs ih =>
    cases entries with
    | nil => exact .surplus (ih [])
    | cons entry entries => exact .item (.refl x) (ih entries)

theorem Placed.of_place {entries : List (String × Part)} {before after : List Json} {name : String} {x y : Json}
    (stands : entries[before.length]? = some (name,p)) (inside : Inserted p x y) :
    Placed entries (before ++ x :: after) (before ++ y :: after) := by
  induction before generalizing entries with
  | nil =>
    cases entries with
    | nil => cases stands
    | cons entry entries =>
      obtain rfl : entry = (name,p) := Option.some.inj stands
      exact .item (.inr inside) (.refl entries after)
  | cons z before ih =>
    cases entries with
    | nil => cases stands
    | cons entry entries => exact .item (.refl z) (ih stands)

theorem Placed.length_eq {entries : List (String × Part)} {xs ys : List Json} (placed : Placed entries xs ys) :
    xs.length = ys.length := by
  induction placed with
  | nil => rfl
  | item _ _ ih | surplus _ ih => rw [List.length_cons,List.length_cons,ih]

theorem forall₂_replaced {α : Type} {R : α → α → Prop} (refl : ∀ a, R a a) (before after : List α) {x y : α}
    (inside : R x y) : List.Forall₂ R (before ++ x :: after) (before ++ y :: after) :=
  List.rel_append (List.forall₂_same.mpr fun a _ => refl a)
    (.cons inside (List.forall₂_same.mpr fun a _ => refl a))

theorem Related.eq_of_flat {x y : Json} (related : Related p x y) (flat : x.depth = 0) : x = y := by
  obtain rfl | inserted := related
  · rfl
  · cases inserted <;> exact absurd flat (Nat.succ_ne_zero _)

theorem Related.arr_list {xs : List Json} {y : Json} (related : Related (.list p) (.arr xs) y) :
    ∃ ys, y = .arr ys ∧ List.Forall₂ (Related p) xs ys := by
  obtain rfl | inserted := related
  · exact ⟨xs,rfl,List.forall₂_same.mpr fun x _ => .refl x⟩
  · cases inserted with
    | item inside => exact ⟨_,rfl,forall₂_replaced .refl _ _ (.inr inside)⟩

theorem Related.obj_table {ms : List (String × Json)} {y : Json} (related : Related (.table p) (.obj ms) y) :
    ∃ ns, y = .obj ns ∧ List.Forall₂ (fun m n => m.1 = n.1 ∧ Related p m.2 n.2) ms ns := by
  obtain rfl | inserted := related
  · exact ⟨ms,rfl,List.forall₂_same.mpr fun m _ => ⟨rfl,.refl m.2⟩⟩
  · cases inserted with
    | entry inside =>
      exact ⟨_,rfl,forall₂_replaced (fun m => ⟨rfl,.refl m.2⟩) _ _ ⟨rfl,.inr inside⟩⟩

theorem Related.obj_record {ms : List (String × Json)} {y : Json} (related : Related (.record k) (.obj ms) y) :
    ∃ ns, y = .obj ns ∧ Grown k ms ns := by
  obtain rfl | inserted := related
  · exact ⟨ms,rfl,.refl ms⟩
  · cases inserted with
    | @here _ key value before after foreign =>
      exact ⟨_,rfl,.after before (.extra foreign (.refl after))⟩
    | @member _ key x z before after inside =>
      exact ⟨_,rfl,.after before (.keep (.inr inside) (.refl after))⟩

theorem Related.arr_record {xs : List Json} {y : Json} (related : Related (.record k) (.arr xs) y) :
    ∃ ys, y = .arr ys ∧ Placed k.fields xs ys := by
  obtain rfl | inserted := related
  · exact ⟨xs,rfl,.refl _ xs⟩
  · cases inserted with
    | place stands inside => exact ⟨_,rfl,.of_place stands inside⟩

end Related

/-- On values that are related as parts, with drafts of less room than this, the readers are the same. -/
def Blind {α : Type} (n n' : Nat) (p : Part) (read read' : Draft → Reading α) : Prop :=
  ∀ ⦃room room' : Nat⦄ ⦃x y : Json⦄, Related p x y → x.depth ≤ room → y.depth ≤ room' → room < n → room' < n' →
    read (x.draftWithin room) = read' (y.draftWithin room')

section Parts

variable {α β : Type} {n n' room room' : Nat} {p : Part} {read read' : Draft → Reading α}

theorem forall₂_among {ι κ : Type} {R S : ι → κ → Prop} {P : ι → Prop} {Q : κ → Prop} {xs : List ι} {ys : List κ}
    (pairs : List.Forall₂ R xs ys) (left : ∀ x ∈ xs, P x) (right : ∀ y ∈ ys, Q y)
    (each : ∀ x y, R x y → P x → Q y → S x y) : List.Forall₂ S xs ys := by
  induction pairs with
  | nil => exact .nil
  | cons here _ ih =>
    obtain ⟨x,xs⟩ := List.forall_mem_cons.mp left
    obtain ⟨y,ys⟩ := List.forall_mem_cons.mp right
    exact .cons (each _ _ here x y) (ih xs ys)

theorem readAll_items {xs ys : List Json}
    (each : List.Forall₂ (fun x y => read (x.draftWithin room) = read' (y.draftWithin room')) xs ys) :
    (Json.itemsWithin room xs).readAll read = (Json.itemsWithin room' ys).readAll read' := by
  induction each with
  | nil => rfl
  | cons here _ ih => rw [Json.itemsWithin,Json.itemsWithin,Items.readAll,Items.readAll,here,ih]

theorem readAll_members {ms ns : List (String × Json)} (each : List.Forall₂ (fun m n => m.1 = n.1 ∧
      read (m.2.draftWithin room) = read' (n.2.draftWithin room')) ms ns) :
    (Json.membersWithin room ms).readAll read = (Json.membersWithin room' ns).readAll read' := by
  induction each with
  | nil => rfl
  | cons here _ ih =>
    obtain ⟨name,same⟩ := here
    rw [Json.membersWithin,Json.membersWithin,Members.readAll,Members.readAll,name,same,ih]

theorem blind_plain (steady : ∀ ⦃room room' : Nat⦄ (j : Json), j.depth ≤ room → j.depth ≤ room' →
    read (j.draftWithin room) = read' (j.draftWithin room')) : Blind n n' .plain read read' := by
  intro room room' x y related enough enough' _ _
  obtain rfl | inserted := related
  · exact steady x enough enough'
  · cases inserted

theorem blind_text : Blind n n' .plain Draft.text Draft.text :=
  blind_plain fun _ _ j _ _ => by cases j <;> rfl

theorem blind_flag : Blind n n' .plain Draft.flag Draft.flag :=
  blind_plain fun _ _ j _ _ => by cases j <;> rfl

theorem keep_steady (j : Json) (enough : j.depth ≤ room) (enough' : j.depth ≤ room') :
    (j.draftWithin room).keep = (j.draftWithin room').keep := by
  induction j using Json.parts generalizing room room' with
  | null | bool | int | float | str => rfl
  | arr items each =>
    obtain ⟨inner,rfl,deep⟩ := arr_room enough
    obtain ⟨inner',rfl,deep'⟩ := arr_room enough'
    have parts : List.Forall₂ (fun x y => (x.draftWithin inner).keep = (y.draftWithin inner').keep)
        items items :=
      List.forall₂_same.mpr fun j member => each j member (deep j member) (deep' j member)
    have whole := readAll_items parts
    rw [itemsWithin_eq,itemsWithin_eq,← Items.keep_eq,← Items.keep_eq,← itemsWithin_eq,← itemsWithin_eq] at whole
    exact congrArg (Json.arr <$> ·) whole
  | obj members each =>
    obtain ⟨inner,rfl,deep⟩ := obj_room enough
    obtain ⟨inner',rfl,deep'⟩ := obj_room enough'
    have parts : List.Forall₂ (fun m n => m.1 = n.1 ∧
        (m.2.draftWithin inner).keep = (n.2.draftWithin inner').keep) members members :=
      List.forall₂_same.mpr fun m member => ⟨rfl,each m member (deep m member) (deep' m member)⟩
    have whole := readAll_members parts
    rw [membersWithin_eq,membersWithin_eq,Members.ofPairs,Members.ofPairs,← Members.keep_eq,← Members.keep_eq,
      ← Members.ofPairs,← Members.ofPairs,← membersWithin_eq,← membersWithin_eq] at whole
    exact congrArg (Json.ofMembers <$> ·) whole

theorem blind_keep : Blind n n' .plain Draft.keep Draft.keep :=
  blind_plain fun _ _ j enough enough' => keep_steady j enough enough'

section Combined

variable (blind : Blind n n' p read read')

include blind

theorem Blind.plain : Blind n n' .plain read read' := by
  intro room room' x y related
  obtain rfl | inserted := related
  · exact blind (.refl x)
  · cases inserted

theorem Blind.mono {m m' : Nat} (le : m ≤ n) (le' : m' ≤ n') : Blind m m' p read read' :=
  fun _ _ _ _ related enough enough' below below' =>
    blind related enough enough' (Nat.lt_of_lt_of_le below le) (Nat.lt_of_lt_of_le below' le')

theorem Blind.map (f : α → β) : Blind n n' p (fun d => f <$> read d) (fun d => f <$> read' d) :=
  fun _ _ _ _ related enough enough' below below' =>
    congrArg (f <$> ·) (blind related enough enough' below below')

theorem Blind.optional : Blind n n' p (·.optional read) (·.optional read') := by
  intro room room' x y related enough enough' below below'
  have whole := blind.map some related enough enough' below below'
  cases x with
  | null =>
    obtain rfl := related.eq_of_flat rfl
    rfl
  | bool | int | float | str =>
    obtain rfl := related.eq_of_flat rfl
    exact whole
  | arr | obj =>
    obtain rfl | inserted := related
    · exact whole
    · cases inserted <;> exact whole

theorem Blind.list : Blind n n' (.list p) (Draft.list read) (Draft.list read') := by
  intro room room' x y related enough enough' below below'
  cases x with
  | null | bool | int | float | str | obj =>
    obtain rfl | inserted := related
    · rfl
    · cases inserted
  | arr xs =>
    obtain ⟨ys,rfl,pairs⟩ := related.arr_list
    obtain ⟨inner,rfl,deep⟩ := arr_room enough
    obtain ⟨inner',rfl,deep'⟩ := arr_room enough'
    have each : List.Forall₂ (fun x y => read (x.draftWithin inner) = read' (y.draftWithin inner')) xs ys :=
      forall₂_among pairs deep deep' fun x y inside here here' => blind inside here here' (by omega) (by omega)
    exact readAll_items each

theorem Blind.table : Blind n n' (.table p) (Draft.table read) (Draft.table read') := by
  intro room room' x y related enough enough' below below'
  cases x with
  | null | bool | int | float | str | arr =>
    obtain rfl | inserted := related
    · rfl
    · cases inserted
  | obj ms =>
    obtain ⟨ns,rfl,pairs⟩ := related.obj_table
    obtain ⟨inner,rfl,deep⟩ := obj_room enough
    obtain ⟨inner',rfl,deep'⟩ := obj_room enough'
    have each : List.Forall₂ (fun m n => m.1 = n.1 ∧
        read (m.2.draftWithin inner) = read' (n.2.draftWithin inner')) ms ns :=
      forall₂_among pairs deep deep' fun m n inside here here' =>
        ⟨inside.1,blind inside.2 here here' (by omega) (by omega)⟩
    exact congrArg (Table.ofEntries <$> ·) (readAll_members each)

theorem Blind.settled : Blind n n' p (fun d => d.settle >>= read) (fun d => d.settle >>= read') := by
  intro room room' x y related enough enough' below below'
  change ((x.draftWithin room).settle >>= read) = ((y.draftWithin room').settle >>= read')
  rw [settle_draftWithin enough,settle_draftWithin enough',pure_bind,pure_bind]
  exact blind related enough enough' below below'

end Combined

theorem Blind.orElse {second second' : Draft → Reading α} (first : Blind n n' p read read')
    (later : Blind n n' p second second') :
    Blind n n' p (fun d => Reading.orElse (read d) (second d)) fun d => Reading.orElse (read' d) (second' d) := by
  intro room room' x y related enough enough' below below'
  change Reading.orElse _ _ = Reading.orElse _ _
  rw [first related enough enough' below below',later related enough enough' below below']

section Variant

open Draft.variant (unit)

variable (emptyIsNull : Bool)

theorem unit_steady (j : Json) (enough : j.depth ≤ room) (enough' : j.depth ≤ room') :
    unit emptyIsNull (j.draftWithin room) = unit emptyIsNull (j.draftWithin room') := by
  cases j with
  | null | bool | int | float | str | arr => rfl
  | obj members =>
    obtain ⟨inner,rfl,_⟩ := obj_room enough
    obtain ⟨inner',rfl,_⟩ := obj_room enough'
    cases members <;> rfl

theorem blind_variant (values : List (String × α)) :
    Blind n n' .plain (Draft.variant emptyIsNull values) (Draft.variant emptyIsNull values) := by
  apply blind_plain
  intro room room' j enough enough'
  cases j with
  | null | bool | int | float | str | arr => rfl
  | obj members =>
    obtain ⟨inner,rfl,deep⟩ := obj_room enough
    obtain ⟨inner',rfl,deep'⟩ := obj_room enough'
    cases members with
    | nil => rfl
    | cons m members =>
      have units := unit_steady emptyIsNull m.2 (deep m (by simp)) (deep' m (by simp))
      have opened : (Json.obj (m :: members)).draftWithin (inner + 1) = .object (inner + 1)
        (.cons (.scalar (.text m.1)) (m.2.draftWithin inner) (Json.membersWithin inner members)) := rfl
      have opened' : (Json.obj (m :: members)).draftWithin (inner' + 1) = .object (inner' + 1)
        (.cons (.scalar (.text m.1)) (m.2.draftWithin inner') (Json.membersWithin inner' members)) := rfl
      rw [opened,opened',Draft.variant,Draft.variant,units]
      cases members <;> rfl

end Variant

end Parts

section Record

variable {α σ : Type} {n n' room room' : Nat}

/-- Fields of the same names, to be given alike, with readers that are blind at what the entries say of them. -/
inductive Sighted (n n' : Nat) : List (String × Part) → List (Field σ) → List (Field σ) → Prop
  | nil : Sighted n n' [] [] []
  | cons {name : String} {part : Part} {entries : List (String × Part)} {f g : Field σ} {fs gs : List (Field σ)}
    (named : f.name = name) (named' : g.name = name) (presence : f.presence = g.presence)
    (blind : Blind n n' part f.read g.read) (rest : Sighted n n' entries fs gs) :
    Sighted n n' ((name,part) :: entries) (f :: fs) (g :: gs)

namespace Sighted

variable {name : String} {p : Part} {entries : List (String × Part)} {fs gs : List (Field σ)}

theorem of {presence : Presence} {read read' : Draft → Reading α} {set : α → σ → σ}
    (blind : Blind n n' p read read') (rest : Sighted n n' entries fs gs) :
    Sighted n n' ((name,p) :: entries) (.of name presence read set :: fs) (.of name presence read' set :: gs) := by
  refine .cons rfl rfl rfl ?_ rest
  intro room room' x y related enough enough' below below'
  exact congrArg (set <$> ·) (blind related enough enough' below below')

theorem maybe {read read' : Draft → Reading α} {set : Option α → σ → σ} (blind : Blind n n' p read read')
    (rest : Sighted n n' entries fs gs) :
    Sighted n n' ((name,p) :: entries) (.maybe name read set :: fs) (.maybe name read' set :: gs) :=
  .of blind.optional rest

variable (fields : Sighted n n' entries fs gs)

include fields

theorem length_eq : fs.length = gs.length := by
  induction fields with
  | nil => rfl
  | cons _ _ _ _ _ ih => rw [List.length_cons,List.length_cons,ih]

theorem missing?_eq (seen : List String) :
    (missing? fs seen).map Field.name = (missing? gs seen).map Field.name := by
  induction fields with
  | nil => rfl
  | @cons name part entries f g fs gs named named' presence _ _ ih =>
    rw [missing?,missing?,List.find?_cons,List.find?_cons,named,named',presence]
    split
    · rw [Option.map_some,Option.map_some,named,named']
    · exact ih

theorem closed_eq (seen : List String) (s : σ) : Members.closed.fill fs seen s = Members.closed.fill gs seen s := by
  have ending (fields : List (Field σ)) : Members.closed.fill fields seen s =
      ((missing? fields seen).map Field.name).elim (pure s) fun name => fail (.mismatch (.missingField name)) := by
    rw [Members.fill]
    cases missing? fields seen <;> rfl
  rw [ending,ending,fields.missing?_eq]

theorem find (key : String) : (fs.find? (·.name == key) = none ∧ gs.find? (·.name == key) = none) ∨
    ∃ f g part, fs.find? (·.name == key) = some f ∧ gs.find? (·.name == key) = some g ∧ f.name = g.name ∧
      entries.lookup key = some part ∧ Blind n n' part f.read g.read := by
  induction fields with
  | nil => exact .inl ⟨rfl,rfl⟩
  | @cons name part entries f g fs gs named named' _ blind _ ih =>
    rw [List.find?_cons,List.find?_cons,named,named',List.lookup_cons]
    by_cases same : name = key
    · subst same
      rw [beq_self_eq_true]
      exact .inr ⟨f,g,part,rfl,rfl,by rw [named,named'],rfl,blind⟩
    · rw [beq_eq_false_iff_ne.mpr same,beq_eq_false_iff_ne.mpr (Ne.symm same)]
      exact ih

theorem endOfList_eq (expected : String) (s : σ) (place : Nat) :
    endOfList expected s place fs = endOfList expected s place gs := by
  induction fields generalizing place with
  | nil => rfl
  | cons _ _ presence _ _ ih =>
    rw [endOfList,endOfList,presence]
    split
    · exact ih (place + 1)
    · rfl

theorem fill_grown {k : Kind} (counted : k.Counts entries) {ms ns : List (String × Json)}
    (grown : Grown k ms ns) (deep : ∀ m ∈ ms, m.2.depth ≤ room)
    (deep' : ∀ m ∈ ns, m.2.depth ≤ room') (below : room < n) (below' : room' < n') (seen : List String) (s : σ) :
    (Json.membersWithin room ms).fill fs seen s = (Json.membersWithin room' ns).fill gs seen s := by
  induction grown generalizing seen s with
  | nil => exact fields.closed_eq seen s
  | @keep key x y ms ns inside _ ih =>
    obtain ⟨here,later⟩ := List.forall_mem_cons.mp deep
    obtain ⟨here',later'⟩ := List.forall_mem_cons.mp deep'
    rw [Json.membersWithin,Json.membersWithin,Members.fill,Members.fill,Draft.fieldOf?,Draft.fieldOf?]
    rcases fields.find key with ⟨none,none'⟩ | ⟨f,g,part,found,found',same,listed,blind⟩
    · rw [none,none',pure_bind,pure_bind,pass_draftWithin,pass_draftWithin,pure_bind,pure_bind]
      exact ih later later' seen s
    · obtain rfl := (counted key part listed).2
      rw [found,found',pure_bind,pure_bind]
      dsimp only
      rw [same]
      split
      · rfl
      · rw [blind inside here here' below below']
        exact congrArg _ (funext fun set => ih later later' _ (set s))
  | @extra key value ms ns foreign _ ih =>
    have later' := (List.forall_mem_cons.mp deep').2
    rw [Json.membersWithin,Members.fill,Draft.fieldOf?]
    rcases fields.find key with ⟨_,none⟩ | ⟨_,_,part,_,_,_,listed,_⟩
    · rw [none,pure_bind,pass_draftWithin,pure_bind]
      exact ih deep later' seen s
    · exact absurd (counted key part listed).1 foreign

/-- A list whose items are related at the fields that they give, gives the same record. -/
theorem fill_placed {xs ys : List Json} (placed : Placed entries xs ys) (deep : ∀ x ∈ xs, x.depth ≤ room)
    (deep' : ∀ y ∈ ys, y.depth ≤ room') (below : room < n) (below' : room' < n') (expected : String)
    (surplus : Fault) (place : Nat) (s : σ) :
    (Json.itemsWithin room xs).fill expected surplus place s fs =
      (Json.itemsWithin room' ys).fill expected surplus place s gs := by
  induction placed generalizing fs gs place s with
  | nil =>
    rw [Json.itemsWithin,Json.itemsWithin,Items.fill,Items.fill]
    exact fields.endOfList_eq expected s place
  | item inside _ ih =>
    obtain ⟨here,later⟩ := List.forall_mem_cons.mp deep
    obtain ⟨here',later'⟩ := List.forall_mem_cons.mp deep'
    cases fields with
    | cons _ _ _ blind rest =>
      rw [Json.itemsWithin,Json.itemsWithin,Items.fill,Items.fill,blind inside here here' below below']
      exact congrArg _ (funext fun set => ih rest later later' (place + 1) (set s))
  | surplus =>
    cases fields with
    | nil => rfl

end Sighted

section Blind

variable {k : Kind} {record record' : Record σ} {entries : List (String × Part)}

theorem read_grown (blank : record.blank = record'.blank)
    (fields : Sighted n n' entries record.fields record'.fields) (counted : k.Counts entries)
    {ms ns : List (String × Json)} (grown : Grown k ms ns) (enough : (Json.obj ms).depth ≤ room)
    (enough' : (Json.obj ns).depth ≤ room') (below : room < n + 1) (below' : room' < n' + 1) :
    record.read ((Json.obj ms).draftWithin room) = record'.read ((Json.obj ns).draftWithin room') := by
  obtain ⟨inner,rfl,deep⟩ := obj_room enough
  obtain ⟨inner',rfl,deep'⟩ := obj_room enough'
  rw [Json.draftWithin,Json.draftWithin,Record.read_object,Record.read_object,blank]
  exact fields.fill_grown counted grown deep deep' (by omega) (by omega) [] _

/-- Records are blind on one more level than their fields. -/
theorem blind_record (name : record.name = record'.name) (blank : record.blank = record'.blank)
    (fields : Sighted n n' k.fields record.fields record'.fields) :
    Blind (n + 1) (n' + 1) (.record k) record.read record'.read := by
  intro room room' x y related enough enough' below below'
  cases x with
  | null | bool | int | float | str =>
    obtain rfl := related.eq_of_flat rfl
    simp only [Json.draftWithin,Record.read,Draft.isBlank,Bool.false_eq_true,if_false,name]
  | arr xs =>
    obtain ⟨ys,rfl,placed⟩ := related.arr_record
    obtain ⟨inner,rfl,deep⟩ := arr_room enough
    obtain ⟨inner',rfl,deep'⟩ := arr_room enough'
    have expected : record.expectedList = record'.expectedList := by
      rw [Record.expectedList,Record.expectedList,name,fields.length_eq]
    rw [Json.draftWithin,Json.draftWithin,Record.read_array,Record.read_array,expected,blank,placed.length_eq]
    exact fields.fill_placed placed deep deep' (by omega) (by omega) _ _ 0 _
  | obj ms =>
    obtain ⟨ns,rfl,grown⟩ := related.obj_record
    exact read_grown blank fields k.counts_fields grown enough enough' below below'

theorem blind_fields (fields : Sighted n n' k.fields record.fields record.fields) :
    Blind n n' (.record k) record.read record.read :=
  (blind_record rfl rfl fields).mono (Nat.le_succ n) (Nat.le_succ n')

theorem blind_readObject (fields : Sighted n n' entries record.fields record.fields)
    (counted : k.Counts entries) : Blind n n' (.record k) record.readObject record.readObject := by
  intro room room' x y related enough enough' below below'
  cases x with
  | null | bool | int | float | str =>
    obtain rfl := related.eq_of_flat rfl
    rfl
  | arr xs =>
    obtain ⟨ys,rfl,_⟩ := related.arr_record
    rfl
  | obj ms =>
    obtain ⟨ns,rfl,grown⟩ := related.obj_record
    exact read_grown rfl fields counted grown enough enough' (Nat.lt_succ_of_lt below) (Nat.lt_succ_of_lt below')

end Blind

end Record

end FlowClient
