import FlowClient.FileSystem.Tree
import Mathlib.Logic.Function.Basic

/-! Trees of files by what is in them. Each change of a tree is a change of the contents that are seen at trails. -/

namespace FlowClient

namespace FileTree

def file? (t : FileTree) (trail : Trail) : Option String :=
  match t.get? trail with
  | some (.file content) => some content
  | _ => none

theorem file?_eq_some {t : FileTree} {trail : Trail} {content : String} :
    t.file? trail = some content ↔ t.get? trail = some (.file content) := by
  unfold file?
  split
  · rename_i found
    simp [found]
  · rename_i other
    refine iff_of_false nofun fun found => other content found

theorem file?_of_directory {t : FileTree} {trail : Trail} (directory : t.get? trail = some .directory) :
    t.file? trail = none := by
  rw [file?,directory]

/-- What is seen by a path is what is there, unless a directory is seen where nothing is. -/
theorem seen?_eq (t : FileTree) (path : String) (trail : Trail) : t.seen? path trail = t.get? trail ∨
    t.get? trail = none ∧ t.seen? path trail = some .directory := by
  unfold seen?
  cases t.get? trail with
  | some e => exact .inl rfl
  | none =>
    dsimp only
    split
    · exact .inr ⟨rfl,rfl⟩
    · exact .inl rfl

theorem get?_of_seen_none {t : FileTree} {path : String} {trail : Trail}
    (unseen : t.seen? path trail = none) : t.get? trail = none := by
  rcases t.seen?_eq path trail with same | ⟨free,_⟩
  · exact same ▸ unseen
  · exact free

theorem file?_of_seen_directory {t : FileTree} {path : String} {trail : Trail}
    (seen : t.seen? path trail = some .directory) : t.file? trail = none := by
  rcases t.seen?_eq path trail with same | ⟨free,_⟩
  · exact file?_of_directory (same ▸ seen)
  · rw [file?,free]

section Changes

theorem lookup_filter {κ ν : Type} [BEq κ] [LawfulBEq κ] (keep : κ → Bool) (entries : List (κ × ν))
    (key : κ) : (entries.filter fun e => keep e.1).lookup key = if keep key then entries.lookup key else none := by
  induction entries with
  | nil => simp
  | cons entry entries ih =>
    obtain ⟨found,value⟩ := entry
    simp only [List.filter_cons,List.lookup_cons]
    by_cases same : key = found
    · subst same
      cases kept : keep key <;> simp [kept,ih]
    · have apart : (key == found) = false := beq_eq_false_iff_ne.mpr same
      cases kept : keep found <;> simp [List.lookup_cons,apart,ih]

theorem get?_insert (t : FileTree) {trail : Trail} (inner : trail ≠ []) (e : Entry) (other : Trail) :
    (t.insert trail e).get? other = if other = trail then some e else t.get? other := by
  by_cases same : other = trail
  · subst same
    simp [get?,insert,inner]
  · have apart : (other == trail) = false := beq_eq_false_iff_ne.mpr same
    have kept := lookup_filter (fun key : Trail => key != trail) t.entries other
    rw [bne,apart,Bool.not_false,if_pos rfl] at kept
    simp only [get?,insert,List.lookup_cons,apart,if_neg same]
    rw [kept]

theorem get?_clear (t : FileTree) (trail other : Trail) :
    (t.clear trail).get? other = if trail <+: other ∧ other ≠ trail then none else t.get? other := by
  unfold get? clear
  by_cases root : other = []
  · subst root
    rw [if_pos rfl,if_pos rfl,if_neg]
    rintro ⟨below,apart⟩
    exact apart (List.prefix_nil.mp below).symm
  · rw [if_neg root,lookup_filter fun key => key == trail || !trail.isPrefixOf key,if_neg root]
    by_cases below : trail <+: other
    · have started : trail.isPrefixOf other = true := List.isPrefixOf_iff_prefix.mpr below
      by_cases same : other = trail
      · simp [same]
      · simp [started,below,same]
    · have other : trail.isPrefixOf other = false := by
        rw [← Bool.not_eq_true,List.isPrefixOf_iff_prefix]
        exact below
      simp [other,below]

theorem get?_erase (t : FileTree) {trail : Trail} (inner : trail ≠ []) (other : Trail) :
    (t.erase trail).get? other = if other = trail then none else t.get? other := by
  unfold get? erase
  rw [lookup_filter fun key => key != trail]
  by_cases same : other = trail
  · subst same
    simp [inner]
  · simp [same]

theorem file?_insert_file (t : FileTree) {trail : Trail} (inner : trail ≠ []) (content : String) :
    (t.insert trail (.file content)).file? = Function.update t.file? trail (some content) := by
  funext other
  rw [Function.update_apply,file?,get?_insert t inner]
  by_cases same : other = trail
  · rw [if_pos same,if_pos same]
  · rw [if_neg same,if_neg same,file?]

theorem file?_insert_directory (t : FileTree) {trail : Trail} (free : t.get? trail = none) :
    (t.insert trail .directory).file? = t.file? := by
  have inner : trail ≠ [] := by
    rintro rfl
    cases free
  funext other
  rw [file?,get?_insert t inner]
  by_cases same : other = trail
  · rw [if_pos same,same,file?,free]
  · rw [if_neg same,file?]

/-- What is left where the directory at a trail is removed with all that is in it. -/
def cleared (out : Trail) (view : Trail → Option String) : Trail → Option String :=
  fun trail => if out <+: trail then none else view trail

theorem file?_clear (t : FileTree) {trail : Trail} (nofile : t.file? trail = none) :
    (t.clear trail).file? = cleared trail t.file? := by
  funext other
  rw [file?,get?_clear,cleared]
  by_cases below : trail <+: other
  · rw [if_pos below]
    by_cases same : other = trail
    · rw [if_neg fun ⟨_,apart⟩ => apart same,same]
      exact nofile
    · rw [if_pos ⟨below,same⟩]
  · rw [if_neg fun ⟨within,_⟩ => below within,if_neg below,file?]

theorem file?_erase (t : FileTree) {trail : Trail} (nofile : t.file? trail = none) :
    (t.erase trail).file? = t.file? := by
  by_cases inner : trail = []
  · subst inner
    funext other
    unfold file? get? erase
    rw [lookup_filter fun key => key != []]
    by_cases root : other = []
    · rw [if_pos root,if_pos root]
    · rw [if_neg root,if_neg root,if_pos (by simpa using root)]
  · funext other
    rw [file?,get?_erase t inner]
    by_cases same : other = trail
    · rw [if_pos same,same,nofile]
    · rw [if_neg same,file?]

end Changes

end FileTree

end FlowClient
