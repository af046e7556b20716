import FlowClient.Document.Fields
import Mathlib.Data.List.Perm.Basic

/-! Readings that look nothing up: they give a value or end with a fault, whatever may be looked up.
Two readings are alike where both give values or both end with faults. -/

namespace FlowClient.Reading

variable {α β γ δ : Type}

def Gives (r : Reading α) : Prop := ∃ a, r = pure a

def Fails (r : Reading α) : Prop := ∃ f, r = fail f

/-- What may be looked up does not count. -/
def Sure (r : Reading α) : Prop := r.Gives ∨ r.Fails

def Alike (r : Reading α) (r' : Reading β) : Prop :=
  (r.Gives ∧ r'.Gives) ∨ (r.Fails ∧ r'.Fails)

/-- The reading gives a value where the condition holds, else it ends with a fault. -/
def Decides (r : Reading α) (p : Prop) : Prop :=
  (p ∧ r.Gives) ∨ (¬ p ∧ r.Fails)

theorem gives_pure (a : α) : Gives (pure a) := ⟨a,rfl⟩

theorem pure_inj {a b : α} (same : (pure a : Reading α) = pure b) : a = b :=
  (Prod.mk.inj (Except.ok.inj (congrFun same 0))).1

theorem fails_fail (f : Fault) : Fails (fail f : Reading α) := ⟨f,rfl⟩

theorem fail_bind (f : Fault) (next : α → Reading β) : (fail f >>= next) = fail f := rfl

theorem Fails.bind {r : Reading α} (fails : r.Fails) (next : α → Reading β) : (r >>= next).Fails := by
  obtain ⟨f,rfl⟩ := fails
  exact ⟨f,fail_bind f next⟩

theorem Gives.not_fails {r : Reading α} (gives : r.Gives) : ¬ r.Fails := by
  rintro ⟨f,failed⟩
  obtain ⟨a,rfl⟩ := gives
  have apart : Except.ok (a,0) = .error f := congrFun failed 0
  cases apart

theorem Sure.bind_fails {r : Reading α} (sure : r.Sure) {next : α → Reading β}
    (fails : ∀ a, (next a).Fails) : (r >>= next).Fails := by
  rcases sure with ⟨a,gives⟩ | failed
  · rw [gives,pure_bind]
    exact fails a
  · exact failed.bind next

theorem Sure.bind_gives {r : Reading α} (sure : r.Sure) {next : α → Reading β} {b : β}
    (gives : (r >>= next) = pure b) : ∃ a, r = pure a ∧ next a = pure b := by
  rcases sure with ⟨a,rfl⟩ | failed
  · exact ⟨a,rfl,by rwa [pure_bind] at gives⟩
  · exact absurd (failed.bind next) (Gives.not_fails ⟨b,gives⟩)

theorem Sure.map_gives {r : Reading α} (sure : r.Sure) {f : α → β} {b : β}
    (gives : f <$> r = pure b) : ∃ a, r = pure a ∧ f a = b := by
  rw [map_eq_pure_bind] at gives
  obtain ⟨a,given,same⟩ := sure.bind_gives gives
  exact ⟨a,given,pure_inj same⟩

theorem Sure.self {r : Reading α} (sure : r.Sure) : r.Alike r :=
  sure.imp (fun gives => ⟨gives,gives⟩) fun fails => ⟨fails,fails⟩

theorem result_of_gives {r : Reading α} {a : α} (gives : r = pure a) (lookups : Nat) :
    r.result lookups = .ok a := by
  rw [gives]
  rfl

theorem result_of_fails {r : Reading α} {f : Fault} (fails : r = fail f) (lookups : Nat) :
    r.result lookups = .error f := by
  rw [fails]
  rfl

/-- A reading that looks nothing up gives the same from any number of lookups. -/
theorem pure_of_result {r : Reading α} (sure : r.Sure) {lookups : Nat} {a : α}
    (ok : r.result lookups = .ok a) : r = pure a := by
  rcases sure with ⟨b,rfl⟩ | ⟨f,rfl⟩
  · exact congrArg pure (Except.ok.inj ok)
  · cases ok

namespace Alike

theorem symm {r : Reading α} {r' : Reading β} (alike : r.Alike r') : r'.Alike r := by
  rcases alike with ⟨gives,gives'⟩ | ⟨fails,fails'⟩
  · exact .inl ⟨gives',gives⟩
  · exact .inr ⟨fails',fails⟩

theorem left {r : Reading α} {r' : Reading β} (alike : r.Alike r') : r.Sure :=
  alike.imp And.left And.left

theorem sure {r : Reading α} {r' : Reading β} (alike : r.Alike r') : r.Sure ∧ r'.Sure :=
  ⟨alike.left,alike.symm.left⟩

theorem gives_iff {r : Reading α} {r' : Reading β} (alike : r.Alike r') : r.Gives ↔ r'.Gives := by
  rcases alike with ⟨gives,gives'⟩ | ⟨fails,fails'⟩
  · exact iff_of_true gives gives'
  · exact iff_of_false (fun gives => gives.not_fails fails) fun gives => gives.not_fails fails'

theorem pure (a : α) (b : β) : Alike (Pure.pure a : Reading α) (Pure.pure b : Reading β) :=
  .inl ⟨gives_pure a,gives_pure b⟩

theorem fail (f g : Fault) : Alike (Reading.fail f : Reading α) (Reading.fail g : Reading β) :=
  .inr ⟨fails_fail f,fails_fail g⟩

theorem fails {r : Reading α} {r' : Reading β} {f g : Fault} (failed : r = Reading.fail f)
    (failed' : r' = Reading.fail g) : r.Alike r' :=
  .inr ⟨⟨f,failed⟩,⟨g,failed'⟩⟩

theorem bind {r : Reading α} {r' : Reading β} {next : α → Reading γ} {next' : β → Reading δ}
    (alike : r.Alike r')
    (later : ∀ a b, r = Pure.pure a → r' = Pure.pure b → (next a).Alike (next' b)) :
    (r >>= next).Alike (r' >>= next') := by
  rcases alike with ⟨⟨a,gives⟩,b,gives'⟩ | ⟨fails,fails'⟩
  · rw [gives,gives',pure_bind,pure_bind]
    exact later a b gives gives'
  · exact .inr ⟨fails.bind next,fails'.bind next'⟩

theorem map {r : Reading α} {r' : Reading β} (f : α → γ) (g : β → δ) (alike : r.Alike r') :
    (f <$> r).Alike (g <$> r') := by
  rw [map_eq_pure_bind,map_eq_pure_bind]
  exact alike.bind fun a b _ _ => .pure _ _

theorem orElse {first second : Reading α} {first' second' : Reading β} (alike : first.Alike first')
    (later : second.Alike second') :
    (Reading.orElse first second).Alike (Reading.orElse first' second') := by
  rcases alike with ⟨⟨a,gives⟩,b,gives'⟩ | ⟨⟨f,fails⟩,g,fails'⟩
  · rw [gives,gives']
    exact .pure a b
  · rw [fails,fails']
    exact later

theorem mapM {ι κ : Type} {read : ι → Reading α} {read' : κ → Reading β} {items : List ι}
    {items' : List κ} (size : items.length = items'.length)
    (each : ∀ pair ∈ items.zip items', (read pair.1).Alike (read' pair.2)) :
    (items.mapM read).Alike (items'.mapM read') := by
  induction items generalizing items' with
  | nil =>
    rw [List.length_nil,eq_comm,List.length_eq_zero_iff] at size
    subst size
    exact .pure _ _
  | cons item items ih =>
    cases items' with
    | nil => simp at size
    | cons item' items' =>
      rw [List.mapM_cons,List.mapM_cons]
      apply (each (item,item') (by simp)).bind
      intro a b _ _
      apply (ih (by simpa using size) fun pair member => each pair (by simp [member])).bind
      intro as bs _ _
      exact .pure _ _

end Alike

namespace Decides

theorem alike {r : Reading α} {r' : Reading β} {p q : Prop} (decides : r.Decides p)
    (decides' : r'.Decides q) (same : p ↔ q) : r.Alike r' := by
  rcases decides with ⟨holds,gives⟩ | ⟨absent,fails⟩ <;>
    rcases decides' with ⟨holds',gives'⟩ | ⟨absent',fails'⟩
  · exact .inl ⟨gives,gives'⟩
  · exact absurd (same.mp holds) absent'
  · exact absurd (same.mpr holds') absent
  · exact .inr ⟨fails,fails'⟩

theorem of_sure {r : Reading α} (sure : r.Sure) : r.Decides r.Gives := by
  rcases sure with gives | fails
  · exact .inl ⟨gives,gives⟩
  · exact .inr ⟨fun gives => gives.not_fails fails,fails⟩

theorem congr {r : Reading α} {p q : Prop} (decides : r.Decides p) (same : p ↔ q) :
    r.Decides q := by rwa [← propext same]

theorem pure (a : α) {p : Prop} (holds : p) : Decides (Pure.pure a : Reading α) p :=
  .inl ⟨holds,gives_pure a⟩

theorem fail (f : Fault) {p : Prop} (absent : ¬ p) : Decides (Reading.fail f : Reading α) p :=
  .inr ⟨absent,fails_fail f⟩

theorem bind {r : Reading α} {next : α → Reading β} {p q : Prop} (decides : r.Decides p)
    (later : ∀ a, r = Pure.pure a → (next a).Decides q) : (r >>= next).Decides (p ∧ q) := by
  rcases decides with ⟨holds,a,gives⟩ | ⟨absent,fails⟩
  · rw [gives,pure_bind]
    exact (later a gives).congr (by simp [holds])
  · exact .inr ⟨fun both => absent both.1,fails.bind next⟩

theorem mapM {ι : Type} {read : ι → Reading α} {items : List ι}
    (each : ∀ item ∈ items, (read item).Sure) :
    (items.mapM read).Decides (∀ item ∈ items, (read item).Gives) := by
  induction items with
  | nil => exact .pure _ (by simp)
  | cons item items ih =>
    rw [List.mapM_cons]
    have later := ih fun other member => each other (by simp [member])
    have here := Decides.of_sure (each item (by simp))
    have there (a : α) : (items.mapM read >>= fun as => Pure.pure (a :: as)).Decides
        ((∀ other ∈ items, (read other).Gives) ∧ True) :=
      later.bind fun as _ => .pure (a :: as) trivial
    exact (here.bind fun a _ => there a).congr (by simp)

end Decides

theorem Decides.sure {r : Reading α} {p : Prop} (decides : r.Decides p) : r.Sure :=
  decides.imp And.right And.right

theorem Sure.mapM_gives {ι : Type} {read : ι → Reading α} {items : List ι}
    (sure : ∀ item ∈ items, (read item).Sure) {values : List α}
    (gives : items.mapM read = pure values) : items.length = values.length ∧
      ∀ pair ∈ items.zip values, read pair.1 = pure pair.2 := by
  induction items generalizing values with
  | nil =>
    obtain rfl := pure_inj gives
    simp
  | cons item items ih =>
    rw [List.mapM_cons] at gives
    obtain ⟨a,here,gives⟩ := (sure item (by simp)).bind_gives gives
    have later : ∀ other ∈ items, (read other).Sure := fun other member => sure other (by simp [member])
    obtain ⟨as,there,same⟩ := (Decides.mapM later).sure.bind_gives gives
    obtain rfl := pure_inj same
    obtain ⟨size,each⟩ := ih later there
    exact ⟨by simp [size],by simpa [List.zip_cons_cons] using ⟨here,by simpa using each⟩⟩

section Zip

variable {ι κ : Type}

theorem forall_zip {xs : List ι} {ys : List κ} {P : ι → Prop} {Q : κ → Prop}
    (size : xs.length = ys.length) (each : ∀ pair ∈ xs.zip ys, P pair.1 ∧ Q pair.2) :
    (∀ x ∈ xs, P x) ∧ ∀ y ∈ ys, Q y := by
  constructor
  · intro x member
    rw [← List.map_fst_zip (Nat.le_of_eq size)] at member
    obtain ⟨pair,found,rfl⟩ := List.mem_map.mp member
    exact (each pair found).1
  · intro y member
    rw [← List.map_snd_zip (Nat.le_of_eq size.symm)] at member
    obtain ⟨pair,found,rfl⟩ := List.mem_map.mp member
    exact (each pair found).2

theorem forall_zip_self {xs : List ι} {P : ι × ι → Prop} (each : ∀ x ∈ xs, P (x,x)) :
    ∀ pair ∈ xs.zip xs, P pair := by
  intro pair member
  rw [List.zip,List.zipWith_self] at member
  obtain ⟨x,found,rfl⟩ := List.mem_map.mp member
  exact each x found

end Zip

section Keyed

variable {ι κ : Type} {ps : List (String × ι)} {qs : List (String × κ)}
  (keys : (ps.map Prod.fst).Perm (qs.map Prod.fst))

include keys

theorem partner {key : String} {x : ι} (member : (key,x) ∈ ps) : ∃ y, (key,y) ∈ qs := by
  have named : key ∈ qs.map Prod.fst := keys.mem_iff.mp (List.mem_map.mpr ⟨_,member,rfl⟩)
  obtain ⟨⟨_,y⟩,found,rfl⟩ := List.mem_map.mp named
  exact ⟨y,found⟩

theorem forall_keyed_iff {P : String × ι → Prop} {Q : String × κ → Prop}
    (each : ∀ key x y, (key,x) ∈ ps → (key,y) ∈ qs → (P (key,x) ↔ Q (key,y))) :
    (∀ p ∈ ps, P p) ↔ ∀ q ∈ qs, Q q := by
  constructor
  · intro all q member
    obtain ⟨x,found⟩ := partner keys.symm member
    exact (each q.1 x q.2 found member).mp (all _ found)
  · intro all p member
    obtain ⟨y,found⟩ := partner keys member
    exact (each p.1 p.2 y member found).mpr (all _ found)

theorem forall_keyed {P : String × ι → Prop} {Q : String × κ → Prop}
    (each : ∀ key x y, (key,x) ∈ ps → (key,y) ∈ qs → P (key,x) ∧ Q (key,y)) :
    (∀ p ∈ ps, P p) ∧ ∀ q ∈ qs, Q q := by
  constructor
  · intro p member
    obtain ⟨y,found⟩ := partner keys member
    exact (each p.1 p.2 y member found).1
  · intro q member
    obtain ⟨x,found⟩ := partner keys.symm member
    exact (each q.1 x q.2 found member).2

/-- Readings of the values under the same keys, whatever the order of the keys. -/
theorem Alike.mapM_keyed {f : String × ι → Reading α} {g : String × κ → Reading β}
    (each : ∀ key x y, (key,x) ∈ ps → (key,y) ∈ qs → (f (key,x)).Alike (g (key,y))) :
    (ps.mapM f).Alike (qs.mapM g) := by
  obtain ⟨sure,sure'⟩ := forall_keyed (P := fun p => (f p).Sure) (Q := fun q => (g q).Sure) keys
    fun key x y here there => (each key x y here there).sure
  apply (Decides.mapM sure).alike (Decides.mapM sure')
  exact forall_keyed_iff keys fun key x y here there => (each key x y here there).gives_iff

end Keyed

end FlowClient.Reading
