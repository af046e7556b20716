import FlowClient.Proofs.FilePlaces
import FlowClient.Proofs.FileTree
import Mathlib.Data.List.TakeWhile

/-! Paths in trees of files. A path names one place whatever stands there; in a sound tree a directory is reached
by every path that names it directly, and what is written or removed through a path is so at its place. -/

namespace FlowClient

namespace FileTree

/-- The trail that a path names, whatever is there. -/
def place (t : FileTree) (path : String) : Trail := Path.land (t.origin path) path

section Walks

/-- The path can be given to the system: it is not blank, not too long, and neither is any of its names. -/
structure Usable (path : String) : Prop where
  filled : path ≠ ""
  clean : path.toList.contains '\x00' = false
  short : path.utf8ByteSize ≤ maxPath
  names : ∀ name ∈ Path.names path, name.utf8ByteSize ≤ maxName

theorem back_short {name : String} (back : Path.isBack name = true) : name.utf8ByteSize ≤ maxName := by
  obtain (rfl | rfl) | rfl : (name = "" ∨ name = ".") ∨ name = ".." := by
    simpa [Path.isBack,Path.isIdle] using back
  · decide
  · decide
  · decide

theorem step_ok {t : FileTree} {trail there : Trail} {name : String} (led : t.step trail name = .ok there) :
    t.get? trail = some .directory ∧ there = Path.follow trail name ∧ name.utf8ByteSize ≤ maxName := by
  unfold step at led
  split at led
  · cases led
  · cases led
  · rename_i directory
    refine ⟨directory,?_⟩
    unfold Path.follow
    split at led
    · rename_i idle
      cases led
      exact ⟨by rw [if_pos idle],back_short (Bool.or_eq_true_iff.mpr (.inl idle))⟩
    · rename_i leading
      rw [if_neg leading]
      split at led
      · rename_i up
        cases led
        rw [beq_iff_eq.mp up]
        exact ⟨rfl,by decide⟩
      · rename_i on
        rw [if_neg on]
        split at led
        · cases led
        · rename_i short
          cases led
          exact ⟨rfl,Nat.le_of_not_lt short⟩

theorem walk_cons (t : FileTree) (trail : Trail) (name : String) (names : List String) :
    t.walk trail (name :: names) = (t.step trail name).bind fun next => t.walk next names := rfl

theorem walk_append (t : FileTree) (trail : Trail) (first second : List String) :
    t.walk trail (first ++ second) = (t.walk trail first).bind fun between => t.walk between second := by
  induction first generalizing trail with
  | nil => rfl
  | cons name names ih =>
    rw [List.cons_append,walk_cons,walk_cons]
    cases t.step trail name with
    | error why => rfl
    | ok next => exact ih next

theorem bind_ok {ε α β : Type} {x : Except ε α} {f : α → Except ε β} {b : β} (given : x.bind f = .ok b) :
    ∃ a, x = .ok a ∧ f a = .ok b := by
  cases x with
  | error why => cases given
  | ok a => exact ⟨a,rfl,given⟩

theorem walk_ok {t : FileTree} {trail there : Trail} {names : List String}
    (led : t.walk trail names = .ok there) :
    there = names.foldl Path.follow trail ∧ ∀ name ∈ names, name.utf8ByteSize ≤ maxName := by
  induction names generalizing trail with
  | nil =>
    cases led
    exact ⟨rfl,by simp⟩
  | cons name names ih =>
    obtain ⟨next,step,rest⟩ := bind_ok led
    obtain ⟨_,rfl,short⟩ := step_ok step
    obtain ⟨same,others⟩ := ih rest
    exact ⟨same,List.forall_mem_cons.mpr ⟨short,others⟩⟩

theorem back_append_ahead (path : String) : Path.back path ++ Path.ahead path = Path.names path :=
  List.takeWhile_append_dropWhile

theorem mem_back (path : String) : ∀ name ∈ Path.back path, Path.isBack name = true :=
  fun _ member => List.mem_takeWhile_imp member

theorem place_ahead (t : FileTree) (path : String) : t.place path =
    (Path.ahead path).foldl Path.follow ((Path.back path).foldl Path.follow (t.origin path)) := by
  rw [← List.foldl_append,back_append_ahead]
  rfl

theorem locate_parts {t : FileTree} {path : String} {trail : Trail} (found : t.locate path = .ok trail) :
    (path ≠ "" ∧ path.toList.contains '\x00' = false ∧ path.utf8ByteSize ≤ maxPath) ∧
      t.walk ((Path.back path).foldl Path.follow (t.origin path)) (Path.ahead path) = .ok trail := by
  unfold locate at found
  split at found
  · cases found
  · rename_i clean
    split at found
    · cases found
    · rename_i filled
      split at found
      · cases found
      · rename_i short
        exact ⟨⟨by simpa using filled,by simpa using clean,Nat.le_of_not_lt short⟩,found⟩

theorem locate_ok {t : FileTree} {path : String} {trail : Trail} (found : t.locate path = .ok trail) :
    trail = t.place path ∧ Usable path := by
  obtain ⟨⟨filled,clean,size⟩,walked⟩ := locate_parts found
  obtain ⟨same,short⟩ := walk_ok walked
  have names : ∀ name ∈ Path.names path, name.utf8ByteSize ≤ maxName := by
    rw [← back_append_ahead,List.forall_mem_append]
    exact ⟨fun name member => back_short (mem_back path name member),short⟩
  exact ⟨same.trans (place_ahead t path).symm,filled,clean,size,names⟩

theorem locate_usable {t : FileTree} {path : String} (usable : Usable path) :
    t.locate path = t.walk ((Path.back path).foldl Path.follow (t.origin path)) (Path.ahead path) := by
  rw [locate,usable.clean,if_neg Bool.false_ne_true,if_neg (by simpa using usable.filled),
    if_neg (Nat.not_lt.mpr usable.short)]

theorem step_of_directory {t : FileTree} {trail : Trail} {name : String}
    (directory : t.get? trail = some .directory) (short : name.utf8ByteSize ≤ maxName) :
    t.step trail name = .ok (Path.follow trail name) := by
  rw [step,directory,Path.follow]
  dsimp only
  split
  · rfl
  · split
    · rfl
    · rw [if_neg (Nat.not_lt.mpr short)]

end Walks

section Joined

open FlowClient.Path (join names isAbsolute land)

theorem splitSlashes_ne_nil (cs : List Char) : Path.splitSlashes cs ≠ [] := by
  cases cs with
  | nil => exact List.cons_ne_nil _ _
  | cons c rest =>
    rw [Path.splitSlashes]
    split
    · exact List.cons_ne_nil _ _
    · split <;> exact List.cons_ne_nil _ _

theorem splitSlashes_append (first second : List Char) :
    Path.splitSlashes (first ++ '/' :: second) = Path.splitSlashes first ++ Path.splitSlashes second := by
  induction first with
  | nil => rfl
  | cons c first ih =>
    rw [List.cons_append,Path.splitSlashes,Path.splitSlashes,ih]
    split
    · rfl
    · cases pieces : Path.splitSlashes first with
      | nil => exact absurd pieces (splitSlashes_ne_nil first)
      | cons name names => rfl

theorem names_ne_nil (path : String) : names path ≠ [] := by
  rw [names,Ne,List.map_eq_nil_iff]
  exact splitSlashes_ne_nil _

theorem join_blank {path : String} : join "" path = path := by
  rw [join]
  simp

/-- A path below another one goes by the other one's names first, but for a blank one at its end. -/
theorem names_join (base : String) {path : String} (relative : isAbsolute path = false) :
    ∃ before, (names base = before ∨ names base = before ++ [""]) ∧
      names (join base path) = before ++ names path := by
  by_cases none : base = ""
  · rw [none,join_blank]
    exact ⟨[],.inr rfl,rfl⟩
  have blank : (base == "") = false := beq_eq_false_iff_ne.mpr none
  rw [join,relative,blank,Bool.or_false,if_neg Bool.false_ne_true]
  split
  · rename_i slash
    obtain ⟨first,ending⟩ := List.getLast?_eq_some_iff.mp (beq_iff_eq.mp slash)
    refine ⟨(Path.splitSlashes first).map String.ofList,.inr ?_,?_⟩
    · rw [names,ending,splitSlashes_append,List.map_append]
      rfl
    · rw [names,String.toList_append,ending,List.append_assoc,List.singleton_append,splitSlashes_append,
        List.map_append]
      rfl
  · refine ⟨names base,.inl rfl,?_⟩
    have chars : (base ++ "/" ++ path).toList = base.toList ++ '/' :: path.toList := by simp
    rw [names,chars,splitSlashes_append,List.map_append]
    rfl

theorem land_names {out : Trail} {base : String} {before : List String}
    (same : names base = before ∨ names base = before ++ [""]) :
    land out base = before.foldl Path.follow out := by
  rcases same with same | same
  · rw [land,same]
  · rw [land,same,List.foldl_append]
    rfl

theorem isAbsolute_join {base path : String} (relative : isAbsolute path = false) :
    isAbsolute (join base path) = isAbsolute base := by
  by_cases blank : base = ""
  · rw [blank,join_blank,relative]
    rfl
  · have filled : (base == "") = false := beq_eq_false_iff_ne.mpr blank
    have start (more : String) : isAbsolute (base ++ more) = isAbsolute base := by
      cases chars : base.toList with
      | nil => exact absurd (String.toList_eq_nil_iff.mp chars) blank
      | cons c rest => simp [isAbsolute,chars]
    rw [join,relative,filled,Bool.or_false,if_neg Bool.false_ne_true]
    split
    · exact start path
    · rw [String.append_assoc]
      exact start _

theorem origin_join (t : FileTree) {base path : String} (relative : isAbsolute path = false) :
    t.origin (join base path) = t.origin base := by
  rw [origin,isAbsolute_join relative]
  rfl

theorem place_join (t : FileTree) {base path : String} (relative : isAbsolute path = false) :
    t.place (join base path) = land (t.place base) path := by
  obtain ⟨before,same,joined⟩ := names_join base relative
  rw [place,origin_join t relative,place,land_names same,land,joined,List.foldl_append]
  rfl

theorem usable_join {base path : String} (filled : base ≠ "") (relative : isAbsolute path = false)
    (usable : Usable (join base path)) : Usable base := by
  obtain ⟨before,same,joined⟩ := names_join base relative
  have starts : ∃ more, join base path = base ++ more := by
    have blank : (base == "") = false := beq_eq_false_iff_ne.mpr filled
    rw [join,relative,blank,Bool.or_false,if_neg Bool.false_ne_true]
    split
    · exact ⟨path,rfl⟩
    · exact ⟨"/" ++ path,String.append_assoc ..⟩
  obtain ⟨more,longer⟩ := starts
  have clean := usable.clean
  have short := usable.short
  rw [longer,String.toList_append] at clean
  rw [longer,String.utf8ByteSize_append] at short
  refine ⟨filled,by simp_all,by omega,?_⟩
  have inside : ∀ name ∈ before, name.utf8ByteSize ≤ maxName := by
    intro name member
    apply usable.names
    rw [joined]
    exact List.mem_append_left _ member
  rcases same with same | same
  · rwa [same]
  · rw [same,List.forall_mem_append]
    exact ⟨inside,by decide⟩

theorem isAbsolute_of_back {path : String} (leads : Path.back path = []) : isAbsolute path = false := by
  by_contra absolute
  obtain ⟨rest,chars⟩ : ∃ rest, path.toList = '/' :: rest := by
    simpa [isAbsolute,List.head?_eq_some_iff] using absolute
  have first : names path = "" :: (Path.splitSlashes rest).map String.ofList := by
    rw [names,chars,Path.splitSlashes,if_pos rfl]
    rfl
  rw [Path.back,first,List.takeWhile_cons_of_pos (by decide)] at leads
  cases leads

theorem span_append {α : Type} {p : α → Bool} {second : List α} (stops : second.takeWhile p = [])
    (first : List α) : (first ++ second).takeWhile p = first.takeWhile p ∧
      (first ++ second).dropWhile p = first.dropWhile p ++ second := by
  induction first with
  | nil =>
    have whole := List.takeWhile_append_dropWhile (p := p) (l := second)
    rw [stops] at whole
    exact ⟨stops,whole⟩
  | cons a first ih =>
    cases holds : p a with
    | true => simp [holds,ih]
    | false => simp [holds]

/-- What can be reached below a path, by a name that leads on, is below a directory. -/
theorem locate_join {t : FileTree} {base path : String} {trail : Trail} (leads : Path.back path = [])
    (found : t.locate (join base path) = .ok trail) :
    trail = land (t.place base) path ∧ t.get? (t.place base) = some .directory ∧
      (base ≠ "" → Usable base) := by
  have relative := isAbsolute_of_back leads
  obtain ⟨trailSame,usable⟩ := locate_ok found
  refine ⟨trailSame.trans (place_join t relative),?_,fun filled => usable_join filled relative usable⟩
  obtain ⟨first,rest,cons⟩ := List.exists_cons_of_ne_nil (names_ne_nil path)
  obtain ⟨before,same,joined⟩ := names_join base relative
  obtain ⟨back,ahead⟩ := span_append leads before
  obtain ⟨_,walked⟩ := locate_parts found
  rw [origin_join t relative,Path.back,Path.ahead,joined,back,ahead,cons,walk_append] at walked
  obtain ⟨between,here,later⟩ := bind_ok walked
  obtain ⟨next,step,_⟩ := bind_ok later
  have there : between = t.place base := by
    rw [(walk_ok here).1,← List.foldl_append,List.takeWhile_append_dropWhile,place,land_names same]
  rw [← there]
  exact (step_ok step).1

end Joined

section Sound

/-- Relative paths start from a directory, and so does each name. -/
structure Sound (t : FileTree) : Prop where
  home : t.get? t.start = some .directory
  below : ∀ trail name, (t.get? (trail ++ [name])).isSome = true → t.get? trail = some .directory

/-- No `..` of the path comes after a name that leads on. -/
def Direct (path : String) : Prop := ".." ∉ Path.ahead path

instance (path : String) : Decidable (Direct path) := inferInstanceAs (Decidable (_ ∉ _))

theorem Sound.of_entries {t : FileTree} (home : t.get? t.start = some .directory)
    (above : ∀ e ∈ t.entries, t.get? e.1.dropLast = some .directory) : t.Sound := by
  refine ⟨home,fun trail name present => ?_⟩
  obtain ⟨entry,found⟩ := Option.isSome_iff_exists.mp present
  rw [get?,if_neg (by simp)] at found
  obtain ⟨before,later,parts,_⟩ := List.lookup_eq_some_iff.mp found
  have directory := above (trail ++ [name],entry) (by simp [parts])
  rwa [List.dropLast_concat] at directory

variable {t : FileTree} (sound : t.Sound)

include sound

theorem Sound.above {trail more : Trail} (present : (t.get? (trail ++ more)).isSome = true)
    (inner : more ≠ []) : t.get? trail = some .directory := by
  induction more using List.reverseRecOn with
  | nil => exact absurd rfl inner
  | append_singleton more name ih =>
    rw [← List.append_assoc] at present
    have directory := sound.below _ _ present
    by_cases blank : more = []
    · rwa [blank,List.append_nil] at directory
    · exact ih (by rw [directory]; rfl) blank

theorem Sound.up {trail : Trail} (directory : t.get? trail = some .directory) :
    t.get? trail.dropLast = some .directory := by
  by_cases root : trail = []
  · rw [root]
    rfl
  · rw [← List.dropLast_append_getLast root] at directory
    exact sound.below _ _ (by rw [directory]; rfl)

theorem Sound.back {trail : Trail} {names : List String} (back : ∀ name ∈ names, Path.isBack name = true)
    (directory : t.get? trail = some .directory) :
    t.get? (names.foldl Path.follow trail) = some .directory := by
  induction names generalizing trail with
  | nil => exact directory
  | cons name names ih =>
    obtain ⟨here,later⟩ := List.forall_mem_cons.mp back
    refine ih later ?_
    unfold Path.follow
    split
    · exact directory
    · rename_i leading
      have up := (Bool.or_eq_true_iff.mp here).resolve_left leading
      rw [if_pos up]
      exact sound.up directory

theorem Sound.walk_on {trail : Trail} {names : List String} (forward : ".." ∉ names)
    (short : ∀ name ∈ names, name.utf8ByteSize ≤ maxName) (directory : t.get? trail = some .directory)
    (there : t.get? (names.foldl Path.follow trail) = some .directory) :
    t.walk trail names = .ok (names.foldl Path.follow trail) := by
  induction names generalizing trail with
  | nil => rfl
  | cons name names ih =>
    obtain ⟨here,others⟩ := List.forall_mem_cons.mp short
    have later : ".." ∉ names := fun member => forward (List.mem_cons_of_mem _ member)
    obtain ⟨rest,within⟩ : ∃ rest, Path.within? (Path.follow trail name) names =
        some (Path.follow trail name ++ rest) := Path.within?_forward later
    have led := Path.foldl_within [] within
    rw [List.nil_append,List.nil_append] at led
    rw [List.foldl_cons,led] at there
    have next : t.get? (Path.follow trail name) = some .directory := by
      by_cases last : rest = []
      · rwa [last,List.append_nil] at there
      · exact sound.above (by rw [there]; rfl) last
    rw [walk_cons,step_of_directory directory here]
    exact ih later others next (led ▸ there)

theorem Sound.locate {path : String} (usable : Usable path) (direct : Direct path)
    (directory : t.get? (t.place path) = some .directory) : t.locate path = .ok (t.place path) := by
  have origin : t.get? (t.origin path) = some .directory := by
    unfold FileTree.origin
    split
    · rfl
    · exact sound.home
  have between := sound.back (mem_back path) origin
  have short : ∀ name ∈ Path.ahead path, name.utf8ByteSize ≤ maxName := by
    intro name member
    apply usable.names
    rw [← back_append_ahead]
    exact List.mem_append_right _ member
  rw [place_ahead] at directory ⊢
  rw [locate_usable usable]
  exact sound.walk_on direct short between directory

/-- Where a path that names its place directly leads nowhere and to no file, nothing is there or below. -/
theorem Sound.free_below {path : String} (usable : Usable path) (direct : Direct path)
    (absent : t.kind? path = none) (nofile : t.file? (t.place path) = none) {trail : Trail}
    (below : t.place path <+: trail) : t.get? trail = none := by
  have nodirectory : t.get? (t.place path) ≠ some .directory := by
    intro directory
    rw [kind?,sound.locate usable direct directory] at absent
    have free := get?_of_seen_none (Option.map_eq_none_iff.mp absent)
    rw [directory] at free
    cases free
  by_contra present
  rw [← Ne,← Option.isSome_iff_ne_none] at present
  obtain ⟨more,rfl⟩ := below
  by_cases same : more = []
  · rw [same,List.append_nil] at present
    obtain ⟨entry,found⟩ := Option.isSome_iff_exists.mp present
    cases entry with
    | directory => exact nodirectory found
    | file content =>
      rw [file?_eq_some.mpr found] at nofile
      cases nofile
  · exact nodirectory (sound.above present same)

end Sound

section Accesses

theorem write_ok {t after : FileTree} {path content : String} (written : t.write path content = .ok after) :
    ∃ trail, t.locate path = .ok trail ∧ trail ≠ [] ∧ after = t.insert trail (.file content) := by
  obtain ⟨trail,found,rest⟩ := bind_ok written
  refine ⟨trail,found,?_⟩
  split at rest
  · cases rest
  · rename_i other
    cases rest
    exact ⟨fun root => other (by rw [root]; rfl),rfl⟩

theorem makeDirectory_ok {t after : FileTree} {path : String} (made : t.makeDirectory path = .ok after) :
    after.start = t.start ∧ after.file? = t.file? := by
  unfold makeDirectory at made
  split at made
  · cases made
  · obtain ⟨trail,_,rest⟩ := bind_ok made
    split at rest
    · cases rest
    · rename_i free
      cases rest
      exact ⟨rfl,file?_insert_directory t (get?_of_seen_none free)⟩

theorem kind?_some {t : FileTree} {path : String} {kind : FileKind} (present : t.kind? path = some kind) :
    ∃ trail e, t.locate path = .ok trail ∧ t.seen? path trail = some e ∧ e.kind = kind := by
  unfold kind? at present
  split at present
  · rename_i trail found
    obtain ⟨e,seen,same⟩ := Option.map_eq_some_iff.mp present
    exact ⟨trail,e,found,seen,same⟩
  · cases present

/-- A directory that is removed leaves nothing, even where it is kept in the end. -/
theorem removeDirectory_directory {t : FileTree} {path : String} (present : t.kind? path = some .directory) :
    (t.removeDirectory path).1.start = t.start ∧
      (t.removeDirectory path).1.file? = cleared (t.place path) t.file? := by
  obtain ⟨trail,e,found,seen,kind⟩ := kind?_some present
  cases e with
  | file content => cases kind
  | directory =>
    have nofile := file?_of_seen_directory seen
    have emptied := file?_clear t nofile
    have gone : (t.clear trail).file? trail = none := by
      rw [emptied,cleared,if_pos (List.prefix_refl trail)]
    rw [removeDirectory,found]
    dsimp only
    rw [seen]
    dsimp only
    rw [← (locate_ok found).1]
    split
    · exact ⟨rfl,emptied⟩
    · split
      · exact ⟨rfl,(file?_erase _ gone).trans emptied⟩
      · exact ⟨rfl,emptied⟩

theorem removeDirectory_file {t : FileTree} {path : String} (present : t.kind? path = some .file) :
    ∃ why, t.removeDirectory path = (t, .error why) := by
  obtain ⟨trail,e,found,seen,kind⟩ := kind?_some present
  cases e with
  | directory => cases kind
  | file content => exact ⟨.notDirectory,by rw [removeDirectory,found]; dsimp only; rw [seen]⟩

end Accesses

end FileTree

end FlowClient
