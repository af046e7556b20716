import FlowClient.Json.Reader
import FlowClient.Proofs.Twin

/-! Drafts as JSON texts are scanned into them: without tags and places elsewhere, and with room that
falls by one at every level. -/

namespace FlowClient

/-- A value as it is scanned from a text. -/
inductive Scanned : Nat → Draft → Prop
  | leaf {r : Nat} {x : Draft} (simple : x.Leaf) : Scanned r x
  | array {r : Nat} {f : Fault} {ending : Option Fault} {xs : List Draft}
      (each : ∀ x ∈ xs, Scanned (r - 1) x) : Scanned r (.array r (some f) (.ofList ending xs))
  | object {r : Nat} {ending : Option Fault} {ms : List (Draft × Draft)}
      (known : ∀ m ∈ ms, m.1.Key) (each : ∀ m ∈ ms, Scanned (r - 1) m.2) :
      Scanned r (.object r (.ofList ending ms))

theorem Scanned.twin {r : Nat} {x : Draft} (scanned : Scanned r x) : Twin r r x x := by
  induction scanned with
  | leaf simple => exact .leaf simple
  | array _ ih =>
    exact .array Iff.rfl rfl (Reading.forall_zip_self ih)
  | object known _ ih =>
    exact .object Iff.rfl rfl known (Reading.forall_zip_self ih)

/-- Items that are scanned, each with the given room. -/
def ScannedItems (room : Nat) (items : Items) : Prop :=
  ∃ ending xs, items = .ofList ending xs ∧ ∀ x ∈ xs, Scanned room x

def ScannedMembers (room : Nat) (members : Members) : Prop :=
  ∃ ending ms, members = .ofList ending ms ∧ (∀ m ∈ ms, m.1.Key) ∧ ∀ m ∈ ms, Scanned room m.2

namespace JsonText

open Draft (Leaf Key)

theorem items_closed (room : Nat) : ScannedItems room .closed := ⟨none,[],rfl,by simp⟩

theorem items_cut (room : Nat) (f : Fault) : ScannedItems room (.cut f) := ⟨some f,[],rfl,by simp⟩

theorem items_cons {room : Nat} {x : Draft} {items : Items} (head : Scanned room x)
    (tail : ScannedItems room items) : ScannedItems room (.cons x items) := by
  obtain ⟨ending,xs,rfl,each⟩ := tail
  exact ⟨ending,x :: xs,rfl,List.forall_mem_cons.mpr ⟨head,each⟩⟩

theorem members_closed (room : Nat) : ScannedMembers room .closed :=
  ⟨none,[],rfl,by simp,by simp⟩

theorem members_cut (room : Nat) (f : Fault) : ScannedMembers room (.cut f) :=
  ⟨some f,[],rfl,by simp,by simp⟩

theorem members_cons {room : Nat} {k x : Draft} {members : Members} (key : k.Key)
    (head : Scanned room x) (tail : ScannedMembers room members) :
    ScannedMembers room (.cons k x members) := by
  obtain ⟨ending,ms,rfl,known,each⟩ := tail
  exact ⟨ending,(k,x) :: ms,rfl,List.forall_mem_cons.mpr ⟨key,known⟩,
    List.forall_mem_cons.mpr ⟨head,each⟩⟩

theorem broken_leaf (f : Fault) : Leaf (broken f).1 := .flawed f (some f)

theorem draft_key (s : Inside) : Key s.draft := by
  rw [Inside.draft]
  split
  · exact .flawed _ _
  · exact .text _

theorem string_key (s : Inside) (cs : List Char) : Key (string s cs).1 := by
  fun_induction string s cs with
  | case2 s rest => exact draft_key s
  | case3 s a b c d rest code _ ih => exact ih
  | case6 s c rest _ _ e _ ih => exact ih
  | case10 s c rest _ _ _ _ _ _ ih => exact ih
  | _ => exact .flawed _ _

theorem key_leaf {d : Draft} (key : d.Key) : d.Leaf := by
  cases key with
  | text s => exact .text s
  | flawed f passed => exact .flawed f passed

theorem word_leaf (value : Scalar) (plain : Leaf (.scalar value)) (ws cs : List Char) :
    Leaf (word value ws cs).1 := by
  fun_induction word value ws cs with
  | case1 rest => exact plain
  | case3 ws c rest ih => exact ih
  | _ => exact .flawed _ _

theorem integer_leaf (negative : Bool) (whole : List Char) : Leaf (integer negative whole) := by
  rw [integer]
  split_ifs
  · exact .int _
  · exact .int _
  · split
    · exact .float _
    · exact .flawed _ _

theorem floating_leaf (negative : Bool) (whole fraction : List Char) (expNegative : Bool)
    (digits : List Char) : Leaf (floating negative whole fraction expNegative digits) := by
  rw [floating]
  split
  · exact .float _
  · exact .flawed _ _

theorem exponent_leaf (negative : Bool) (whole fraction cs : List Char) :
    Leaf (exponent negative whole fraction cs).1 := by
  unfold exponent
  split
  dsimp only
  split
  · exact .flawed _ _
  · exact floating_leaf _ _ _ _ _

theorem afterFraction_leaf (negative : Bool) (whole fraction cs : List Char) :
    Leaf (afterFraction negative whole fraction cs).1 := by
  unfold afterFraction
  split
  · exact exponent_leaf _ _ _ _
  · exact exponent_leaf _ _ _ _
  · split
    · exact integer_leaf _ _
    · exact floating_leaf _ _ _ _ _

theorem magnitude_leaf (negative : Bool) (cs : List Char) : Leaf (magnitude negative cs).1 := by
  rw [magnitude]
  dsimp only
  split
  · exact .flawed _ _
  · split
    · exact broken_leaf _
    · split
      · split
        · exact .flawed _ _
        · exact afterFraction_leaf _ _ _ _
      · exact afterFraction_leaf _ _ _ _

/-- What the scanners give that are called with the fuel. -/
structure Scans (fuel : Nat) : Prop where
  value : ∀ room cs, Scanned room (value fuel room cs).1
  firstItem : ∀ room cs, ScannedItems room (firstItem fuel room cs).1
  item : ∀ room cs, ScannedItems room (item fuel room cs).1
  firstMember : ∀ room cs, ScannedMembers room (firstMember fuel room cs).1
  member : ∀ room cs, ScannedMembers room (member fuel room cs).1

theorem scans_value {fuel : Nat} (scans : Scans fuel) (room : Nat) (cs : List Char) :
    Scanned room (value (fuel + 1) room cs).1 := by
  rw [value]
  split
  · exact .leaf (broken_leaf _)
  · exact .leaf (key_leaf (string_key _ _))
  · exact .leaf (magnitude_leaf _ _)
  · exact .leaf (word_leaf .null .null _ _)
  · exact .leaf (word_leaf (.flag true) (.flag true) _ _)
  · exact .leaf (word_leaf (.flag false) (.flag false) _ _)
  · rename_i rest _
    obtain ⟨ending,xs,made,each⟩ := scans.firstItem (room - 1) rest
    dsimp only
    rw [made]
    exact .array each
  · rename_i rest _
    obtain ⟨ending,ms,made,known,each⟩ := scans.firstMember (room - 1) rest
    dsimp only
    rw [made]
    exact .object known each
  · split
    · exact .leaf (magnitude_leaf _ _)
    · exact .leaf (broken_leaf _)

theorem scans_firstItem {fuel : Nat} (scans : Scans fuel) (room : Nat) (cs : List Char) :
    ScannedItems room (firstItem (fuel + 1) room cs).1 := by
  rw [firstItem]
  split
  · exact items_cut _ _
  · exact items_closed _
  · exact scans.item _ _

theorem scans_item {fuel : Nat} (scans : Scans fuel) (room : Nat) (cs : List Char) :
    ScannedItems room (item (fuel + 1) room cs).1 := by
  have head := scans.value room cs
  rw [item]
  split
  · rename_i d found
    rw [found] at head
    exact items_cons head (items_closed _)
  · rename_i d rest found
    rw [found] at head
    split
    · exact items_cons head (items_cut _ _)
    · exact items_cons head (items_closed _)
    · exact items_cons head (scans.item _ _)
    · exact items_cons head (items_cut _ _)

theorem scans_firstMember {fuel : Nat} (scans : Scans fuel) (room : Nat) (cs : List Char) :
    ScannedMembers room (firstMember (fuel + 1) room cs).1 := by
  rw [firstMember]
  split
  · exact members_closed _
  · exact scans.member _ _

theorem scans_member {fuel : Nat} (scans : Scans fuel) (room : Nat) (cs : List Char) :
    ScannedMembers room (member (fuel + 1) room cs).1 := by
  rw [member]
  split
  · exact members_cut _ _
  · rename_i rest _
    have key := string_key {} rest
    split
    · rename_i k found
      rw [found] at key
      exact members_cons key (.leaf .null) (members_closed _)
    · rename_i k rest found
      rw [found] at key
      split
      · exact members_cons key (.leaf (broken_leaf _)) (members_closed _)
      · rename_i rest _
        have head := scans.value room rest
        split
        · rename_i d found
          rw [found] at head
          exact members_cons key head (members_closed _)
        · rename_i d rest found
          rw [found] at head
          split
          · exact members_cons key head (members_cut _ _)
          · exact members_cons key head (members_closed _)
          · exact members_cons key head (scans.member _ _)
          · exact members_cons key head (members_cut _ _)
      · exact members_cons key (.leaf (broken_leaf _)) (members_closed _)
  · exact members_cut _ _

theorem scans (fuel : Nat) : Scans fuel := by
  induction fuel with
  | zero =>
    refine ⟨?_,?_,?_,?_,?_⟩ <;> intro room cs
    · rw [value]
      exact .leaf (broken_leaf .malformed)
    · rw [firstItem]
      exact items_cut room .malformed
    · rw [item]
      exact items_cut room .malformed
    · rw [firstMember]
      exact members_cut room .malformed
    · rw [member]
      exact members_cut room .malformed
  | succ fuel ih =>
    exact ⟨scans_value ih,scans_firstItem ih,scans_item ih,scans_firstMember ih,scans_member ih⟩

/-- A text is scanned into a draft that all readers are sure of. -/
theorem scan_scanned (text : String) : Scanned maxDepth (scan text).1 :=
  (scans _).value maxDepth text.toList

end JsonText

end FlowClient
