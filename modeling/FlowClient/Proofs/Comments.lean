import FlowClient.Package.Files
import FlowClient.Proofs.Pieces
import Mathlib.Data.List.Chain
import Mathlib.Data.List.DropRight
import Mathlib.Data.List.Infix

/-! Documentation that stays inside its comment. A star meets a slash only inside a line of a text, where a backslash
comes between them; each break is followed by a star of the comment's own. -/

namespace FlowClient

/-- The rests of a text that begin with the pattern, one for each place where it stands. -/
def occurrences (pattern text : List Char) : List (List Char) := text.tails.filter pattern.isPrefixOf

/-- The characters of a text that are no white space. -/
def ink (cs : List Char) : List Char := cs.filter fun c => !Text.isSpace c

/-- A comment that ends where its only closer stands. Every further line continues it, and the texts are in it with
all their ink. -/
structure CommentBlock (texts : List String) (block : List Char) : Prop where
  opened : ['/','*','*'] <+: block
  closed_once : occurrences ['*','/'] block = [['*','/']]
  continued : ∀ line ∈ (block.splitOn '\n').tail, [' ','*'] <+: line
  written : (texts.flatMap fun text => ink text.toList).Sublist block

def RequestFunction.texts (r : RequestFunction) : List String :=
  [r.summary,r.description].flatMap fun text => (nonempty? text).toList

section Lines

def joinLines (lines : List (List Char)) : List Char := ['\n'].intercalate lines

theorem joinLines_cons {line : List Char} {lines : List (List Char)} (more : lines ≠ []) :
    joinLines (line :: lines) = line ++ '\n' :: joinLines lines := by
  rw [joinLines,List.intercalate_cons_of_ne_nil more,List.append_assoc,List.singleton_append,joinLines]

theorem joinLines_append {first second : List (List Char)} (some : first ≠ []) (more : second ≠ []) :
    joinLines (first ++ second) = joinLines first ++ '\n' :: joinLines second := by
  induction first with
  | nil => exact absurd rfl some
  | cons line first ih =>
    rw [List.cons_append,joinLines_cons (List.append_ne_nil_of_right_ne_nil first more)]
    by_cases last : first = []
    · subst last
      simp [joinLines]
    · rw [ih last,joinLines_cons last,List.append_assoc,List.cons_append]

theorem joinLines_splitOn (cs : List Char) : joinLines (cs.splitOn '\n') = cs := List.intercalate_splitOn '\n'

theorem linesFrom_eq (line cs : List Char) :
    linesFrom line cs = (cs.splitOn '\n').modifyHead (line.reverse ++ ·) := by
  induction cs generalizing line with
  | nil => simp [linesFrom]
  | cons c cs ih =>
    rw [linesFrom,List.splitOn_cons_eq_if_modifyHead]
    by_cases ends : c = '\n'
    · rw [if_pos ends,if_pos (beq_iff_eq.mpr ends),ih]
      cases cs.splitOn '\n' <;> simp
    · rw [if_neg ends,if_neg (fun same => ends (beq_iff_eq.mp same)),ih]
      cases cs.splitOn '\n' <;> simp

theorem not_mem_splitOn {cs line : List Char} (member : line ∈ cs.splitOn '\n') : '\n' ∉ line := fun inside =>
  (mem_splitOn member inside).2 rfl

end Lines

section Closers

/-- No star stands right before a slash. -/
def Unclosed (cs : List Char) : Prop := cs.IsChain fun a b => ¬ (a = '*' ∧ b = '/')

theorem Unclosed.cons {c : Char} {cs : List Char} (unclosed : Unclosed cs) (other : c ≠ '*') :
    Unclosed (c :: cs) :=
  List.IsChain.cons unclosed fun _ _ closer => other closer.1

theorem unclosed_star : Unclosed [' ','*'] := Unclosed.cons (List.isChain_singleton '*') (by decide)

theorem unclosed_break {first rest : List Char} :
    Unclosed (first ++ '\n' :: rest) ↔ Unclosed first ∧ Unclosed rest := by
  constructor
  · intro unclosed
    have later : Unclosed ('\n' :: rest) := List.IsChain.right_of_append unclosed
    exact ⟨List.IsChain.left_of_append unclosed,List.IsChain.tail later⟩
  · rintro ⟨left,right⟩
    refine List.isChain_append.mpr ⟨left,right.cons (by decide),?_⟩
    rintro a _ b head ⟨_,rfl⟩
    exact absurd (Option.some.inj head) (by decide)

theorem unclosed_joinLines {lines : List (List Char)} :
    Unclosed (joinLines lines) ↔ ∀ line ∈ lines, Unclosed line := by
  induction lines with
  | nil => exact iff_of_true .nil (by simp)
  | cons line lines ih =>
    by_cases last : lines = []
    · subst last
      simp [joinLines]
    · rw [joinLines_cons last,unclosed_break,ih,List.forall_mem_cons]

theorem breakClosers_head (cs : List Char) : (breakClosers cs).head? = cs.head? := by
  fun_cases breakClosers cs <;> rfl

theorem breakClosers_unclosed (cs : List Char) : Unclosed (breakClosers cs) := by
  fun_induction breakClosers cs with
  | case1 => exact .nil
  | case2 rest ih =>
    have slash : Unclosed ('/' :: breakClosers rest) := ih.cons (by decide)
    have backslash : Unclosed ('\\' :: '/' :: breakClosers rest) := slash.cons (by decide)
    exact List.IsChain.cons backslash fun _ next closer => absurd (Option.some.inj next) (by simp [closer.2])
  | case3 c rest apart ih =>
    refine List.IsChain.cons ih ?_
    intro next head closer
    rw [breakClosers_head] at head
    obtain ⟨after,same⟩ := List.head?_eq_some_iff.mp head
    exact apart after closer.1 (by rw [same,closer.2])

/-- Text without closers, closed once, is closed nowhere else. -/
theorem occurrences_closed {body : List Char} (unclosed : Unclosed (body ++ ['*'])) :
    occurrences ['*','/'] (body ++ ['*','/']) = [['*','/']] := by
  induction body with
  | nil => decide
  | cons c body ih =>
    obtain ⟨apart,rest⟩ := List.isChain_cons.mp unclosed
    have here : List.isPrefixOf ['*','/'] (c :: (body ++ ['*','/'])) = false := by
      rw [Bool.eq_false_iff,Ne,List.isPrefixOf_iff_prefix,List.cons_prefix_cons]
      rintro ⟨star,slash⟩
      cases body with
      | nil => exact absurd slash (by decide)
      | cons d body =>
        have next := (List.cons_prefix_cons.mp slash).1
        exact apart d rfl ⟨star.symm,next.symm⟩
    rw [List.cons_append,occurrences,List.tails_cons,List.filter_cons_of_neg (by simp [here])]
    exact ih rest

end Closers

section Ink

theorem ink_dropWhile (cs : List Char) : ink (cs.dropWhile Text.isSpace) = ink cs := by
  induction cs with
  | nil => rfl
  | cons c cs ih =>
    rw [List.dropWhile_cons]
    split
    · rename_i blank
      rw [ih,ink,ink,List.filter_cons_of_neg (by simp [blank])]
    · rfl

theorem ink_trimEnd (cs : List Char) : ink (trimEnd cs) = ink cs := by
  have reversed := ink_dropWhile cs.reverse
  rw [ink,ink,List.filter_reverse] at reversed
  rw [trimEnd,ink,List.filter_reverse,reversed,List.reverse_reverse,ink]

theorem ink_trim (cs : List Char) : ink (trim cs) = ink cs := by
  rw [trim,ink_trimEnd,ink_dropWhile]

theorem ink_joinLines (lines : List (List Char)) : ink (joinLines lines) = lines.flatMap ink := by
  induction lines with
  | nil => rfl
  | cons line lines ih =>
    by_cases last : lines = []
    · subst last
      simp [joinLines]
    · have blank : Text.isSpace '\n' = true := by decide
      rw [joinLines_cons last,ink,List.filter_append,List.filter_cons_of_neg (by simp [blank])]
      rw [List.flatMap_cons,← ih]
      rfl

theorem sublist_breakClosers (cs : List Char) : cs.Sublist (breakClosers cs) := by
  fun_induction breakClosers cs with
  | case1 => exact .slnil
  | case2 rest ih => exact (((ih.cons_cons '/').cons '\\').cons_cons '*')
  | case3 c rest _ ih => exact ih.cons_cons c

end Ink

section Starred

def commentLines (cs : List Char) : List (List Char) :=
  ((breakClosers (trim cs)).splitOn '\n').map fun line => [' ','*',' '] ++ trimEnd line

theorem commentLines_ne_nil (cs : List Char) : commentLines cs ≠ [] := by
  rw [commentLines,Ne,List.map_eq_nil_iff]
  exact List.splitOn_ne_nil _ _

theorem starred_intercalate {lines : List (List Char)} (some : lines ≠ []) :
    [' ','*',' '] ++ continuation.intercalate lines =
      joinLines (lines.map fun line => [' ','*',' '] ++ line) := by
  induction lines with
  | nil => exact absurd rfl some
  | cons line lines ih =>
    by_cases last : lines = []
    · subst last
      simp [joinLines]
    · rw [List.intercalate_cons_of_ne_nil last,List.map_cons,joinLines_cons (by simpa using last),← ih last]
      simp [continuation]

theorem commentChars_lines (cs : List Char) :
    [' ','*',' '] ++ commentChars cs = joinLines (commentLines cs) := by
  have lines : linesFrom [] (breakClosers (trim cs)) = (breakClosers (trim cs)).splitOn '\n' := by
    rw [linesFrom_eq]
    cases (breakClosers (trim cs)).splitOn '\n' <;> rfl
  rw [commentChars,lines,starred_intercalate (by simp),List.map_map]
  rfl

theorem trimEnd_initial (cs : List Char) : trimEnd cs <+: cs := List.rdropWhile_prefix Text.isSpace cs

structure Starred (line : List Char) : Prop where
  star : [' ','*'] <+: line
  unbroken : '\n' ∉ line
  unclosed : Unclosed line

theorem commentLines_starred (cs : List Char) : ∀ line ∈ commentLines cs, Starred line := by
  intro line member
  obtain ⟨own,inside,rfl⟩ := List.mem_map.mp member
  have each : Unclosed own := by
    have unclosed := breakClosers_unclosed (trim cs)
    rw [← joinLines_splitOn (breakClosers _),unclosed_joinLines] at unclosed
    exact unclosed own inside
  have unclosed : Unclosed (trimEnd own) := List.IsChain.prefix each (trimEnd_initial own)
  refine ⟨⟨' ' :: trimEnd own,rfl⟩,?_,?_⟩
  · have kept : '\n' ∉ trimEnd own := fun found =>
      not_mem_splitOn inside ((trimEnd_initial own).subset found)
    simp [kept]
  · have blank : Unclosed (' ' :: trimEnd own) := unclosed.cons (by decide)
    refine Unclosed.cons ?_ (by decide)
    exact List.IsChain.cons blank fun _ next closer => absurd (Option.some.inj next) (by simp [closer.2])

theorem commentLines_ink (cs : List Char) : (ink cs).Sublist (commentLines cs).flatten := by
  have broken : (ink (trim cs)).Sublist (ink (breakClosers (trim cs))) := (sublist_breakClosers _).filter _
  rw [ink_trim,← joinLines_splitOn (breakClosers _),ink_joinLines] at broken
  have each (line : List Char) : (ink line).Sublist ([' ','*',' '] ++ trimEnd line) := by
    rw [← ink_trimEnd]
    exact List.filter_sublist.trans (List.sublist_append_right _ _)
  refine broken.trans ?_
  rw [commentLines]
  induction (breakClosers (trim cs)).splitOn '\n' with
  | nil => exact .slnil
  | cons line lines ih =>
    rw [List.flatMap_cons,List.map_cons,List.flatten_cons]
    exact (each line).append ih

end Starred

section Block

theorem flatten_sublist_joinLines (lines : List (List Char)) : lines.flatten.Sublist (joinLines lines) := by
  induction lines with
  | nil => exact .slnil
  | cons line lines ih =>
    by_cases last : lines = []
    · subst last
      simp [joinLines]
    · rw [joinLines_cons last,List.flatten_cons]
      exact (List.Sublist.refl line).append (ih.cons '\n')

theorem commentBlock_of_lines {texts : List String} {lines : List (List Char)} (some : lines ≠ [])
    (starred : ∀ line ∈ lines, Starred line)
    (written : (texts.flatMap fun text => ink text.toList).Sublist lines.flatten) :
    CommentBlock texts
      (['/','*','*'] ++ '\n' :: (joinLines lines ++ '\n' :: [' ','*','/'])) := by
  have ending : joinLines (lines ++ [[' ','*','/']]) = joinLines lines ++ '\n' :: [' ','*','/'] :=
    joinLines_append some (List.cons_ne_nil _ _)
  have all : joinLines (['/','*','*'] :: (lines ++ [[' ','*','/']])) =
      ['/','*','*'] ++ '\n' :: (joinLines lines ++ '\n' :: [' ','*','/']) := by
    rw [joinLines_cons (by simp),ending]
  refine ⟨List.prefix_append _ _,?_,?_,?_⟩
  · have inside : Unclosed (joinLines lines) :=
      unclosed_joinLines.mpr fun line member => (starred line member).unclosed
    have head : Unclosed ['/','*','*'] := by
      unfold Unclosed
      decide
    have unclosed : Unclosed (['/','*','*'] ++ '\n' :: (joinLines lines ++ '\n' :: [' ','*'])) :=
      unclosed_break.mpr ⟨head,unclosed_break.mpr ⟨inside,unclosed_star⟩⟩
    have once : occurrences ['*','/'] ((['/','*','*'] ++ '\n' :: (joinLines lines ++ ['\n',' '])) ++ ['*','/']) =
        [['*','/']] := occurrences_closed (by simpa using unclosed)
    simpa using once
  · have unbroken : ∀ line ∈ ['/','*','*'] :: (lines ++ [[' ','*','/']]), '\n' ∉ line := by
      rw [List.forall_mem_cons,List.forall_mem_append,List.forall_mem_singleton]
      exact ⟨by decide,fun line member => (starred line member).unbroken,by decide⟩
    have split : (joinLines (['/','*','*'] :: (lines ++ [[' ','*','/']]))).splitOn '\n' = _ :=
      List.splitOn_intercalate '\n' unbroken (List.cons_ne_nil _ _)
    rw [← all,split,List.tail_cons,List.forall_mem_append,List.forall_mem_singleton]
    exact ⟨fun line member => (starred line member).star,['/'],rfl⟩
  · have inner : lines.flatten.Sublist (joinLines lines ++ '\n' :: [' ','*','/']) :=
      (flatten_sublist_joinLines lines).trans (List.sublist_append_left _ _)
    exact written.trans ((inner.cons '\n').trans (List.sublist_append_right _ _))

theorem commentBlock_single (text : String) :
    CommentBlock [text] ("/**\n * " ++ commentText text ++ "\n */").toList := by
  have block : CommentBlock [text] _ := commentBlock_of_lines (commentLines_ne_nil text.toList)
    (commentLines_starred text.toList) (by simpa using commentLines_ink text.toList)
  rw [← commentChars_lines] at block
  simpa [commentText] using block

theorem commentBlock_pair (first second : String) : CommentBlock [first,second]
    ("/**\n * " ++ commentText first ++ "\n *\n * " ++ commentText second ++ "\n */").toList := by
  have between : Starred [' ','*'] := ⟨List.prefix_rfl,by decide,unclosed_star⟩
  have starred : ∀ line ∈ commentLines first.toList ++ [' ','*'] :: commentLines second.toList,
      Starred line := by
    rw [List.forall_mem_append,List.forall_mem_cons]
    exact ⟨commentLines_starred _,between,commentLines_starred _⟩
  have written : ([first,second].flatMap fun text => ink text.toList).Sublist
      (commentLines first.toList ++ [' ','*'] :: commentLines second.toList).flatten := by
    have later := (commentLines_ink second.toList).trans (List.sublist_append_right [' ','*'] _)
    simpa using (commentLines_ink first.toList).append later
  have block := commentBlock_of_lines (by simp) starred written
  rw [joinLines_append (commentLines_ne_nil _) (List.cons_ne_nil _ _),
    joinLines_cons (commentLines_ne_nil _),← commentChars_lines,← commentChars_lines] at block
  simpa [commentText] using block

end Block

/-- The module of an operation has the documentation before its function. An operation without texts has none. Else it
is a comment block with a break after it, which no text of the operation ends early or gets out of, and which loses
none of their ink. -/
theorem documentation_enclosed (r : RequestFunction) :
    (∃ head, r.file.content = head ++ docComment r.summary r.description ++ "export default " ++
      r.module.function.print ++ "\n") ∧
    (r.texts = [] ∧ docComment r.summary r.description = "" ∨
      r.texts ≠ [] ∧ ∃ block, docComment r.summary r.description = block ++ "\n" ∧
        CommentBlock r.texts block.toList) := by
  have texts : r.texts = (nonempty? r.summary).toList ++ (nonempty? r.description).toList := by
    simp [RequestFunction.texts]
  have ending (text : String) : text ++ "\n */\n" = text ++ "\n */" ++ "\n" := by
    rw [String.append_assoc]
    rfl
  refine ⟨⟨_,rfl⟩,?_⟩
  rw [texts,docComment]
  cases nonempty? r.summary with
  | none =>
    cases nonempty? r.description with
    | none => exact .inl ⟨rfl,rfl⟩
    | some d => exact .inr ⟨List.cons_ne_nil _ _,_,ending _,commentBlock_single d⟩
  | some s =>
    cases nonempty? r.description with
    | none => exact .inr ⟨List.cons_ne_nil _ _,_,ending _,commentBlock_single s⟩
    | some d => exact .inr ⟨List.cons_ne_nil _ _,_,ending _,commentBlock_pair s d⟩

end FlowClient
