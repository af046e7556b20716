import FlowClient.Document.Operation
import FlowClient.Naming.Route
import FlowClient.Proofs.Identifiers
import FlowClient.Proofs.Letters
import FlowClient.Proofs.Pieces

/-! Names made of routes. On an ASCII path such a name is a prefix for the method with ASCII letters and digits behind
it, so nothing that is done to names has anything to mend in it. -/

namespace FlowClient

/-- The last piece of a path that is not empty, with slashes only behind it. -/
def LastPiece (path piece : List Char) : Prop :=
  ∃ before after, path = before ++ piece ++ after ∧ piece ≠ [] ∧ '/' ∉ piece ∧
    (∀ c ∈ before.getLast?, c = '/') ∧ ∀ c ∈ after, c = '/'

def EndsInParameter (path : String) : Prop :=
  ∃ inner, LastPiece path.toList ('{' :: (inner ++ ['}']))

inductive RouteLead (path : String) : Method → String → Prop
  | single : EndsInParameter path → RouteLead path .get "get"
  | several : ¬ EndsInParameter path → RouteLead path .get "list"
  | put : RouteLead path .put "update"
  | post : RouteLead path .post "create"
  | delete : RouteLead path .delete "delete"
  | options : RouteLead path .options "options"
  | patch : RouteLead path .patch "patch"

/-- A word, or what is left of it without an ending. -/
inductive Stem : String → String → Prop
  | whole (word : String) : Stem word word
  | ies {stem : String} : stem ≠ "" → Stem (stem ++ "ies") (stem ++ "y")
  | es (stem : String) {hiss : String} : hiss ∈ ["s","x","z"] → Stem (stem ++ hiss ++ "es") (stem ++ hiss)
  | s {stem : String} : stem ≠ "" → Stem (stem ++ "s") stem

def resources (path : String) : List String := (pathPieces path).filter fun piece => !isParameterPiece piece

/-- The words in the name of a route: the pieces that are no parameters, the last one by its stem where a parameter ends
the path. -/
structure RouteWords (path : String) (words : List String) : Prop where
  stems : List.Forall₂ Stem (resources path) words
  earlier : words.dropLast = (resources path).dropLast
  whole : ¬ EndsInParameter path → words = resources path

/-- A name that is taken as it is: it is an identifier, no character of it is replaced, and the function that has it can
be declared. -/
structure Settled (name : String) : Prop where
  identifier : isIdentifier name = true
  kept : operationName name = name
  function : Declarable (functionName name)

section Singular

theorem exists_stem {word ending : String} (ends : endsIn word ending = true) : ∃ stem, word = stem ++ ending := by
  obtain ⟨stem,split⟩ := List.isSuffixOf_iff_suffix.mp ends
  exact ⟨String.ofList stem,String.toList_inj.mp (by simp [split])⟩

theorem dropLast_append (stem : String) {ending : String} {count : Nat} (size : ending.toList.length = count) :
    dropLast (stem ++ ending) count = stem := by
  simp [dropLast,← size]

theorem stem_ne_empty {stem ending : String} {count : Nat} (size : ending.utf8ByteSize = count)
    (longer : count < (stem ++ ending).utf8ByteSize) : stem ≠ "" := by
  rintro rfl
  simp [size] at longer

/-- Every cut of the singular is at an ending of the word, and leaves something of it. -/
theorem singular_stem (word : String) : Stem word (singular word) := by
  unfold singular
  split_ifs with ies es s
  · obtain ⟨ends,longer⟩ := Bool.and_eq_true_iff.mp ies
    obtain ⟨stem,rfl⟩ := exists_stem ends
    rw [dropLast_append stem (by decide)]
    exact .ies (stem_ne_empty (by decide) (of_decide_eq_true longer))
  · have hissing : ∃ hiss ∈ ["s","x","z"], endsIn word (hiss ++ "es") = true := by
      simpa [or_assoc] using es
    obtain ⟨hiss,member,ends⟩ := hissing
    obtain ⟨stem,rfl⟩ := exists_stem ends
    rw [← String.append_assoc,dropLast_append (stem ++ hiss) (by decide)]
    exact .es stem member
  · obtain ⟨ends,longer⟩ := Bool.and_eq_true_iff.mp s
    obtain ⟨stem,rfl⟩ := exists_stem (Bool.and_eq_true_iff.mp ends).1
    rw [dropLast_append stem (by decide)]
    exact .s (stem_ne_empty (by decide) (of_decide_eq_true longer))
  · exact .whole word

end Singular

section Ending

def filledPieces (path : List Char) : List (List Char) := (path.splitOn '/').filter fun piece => !piece.isEmpty

theorem filledPieces_slashes {path : List Char} (slashes : ∀ c ∈ path, c = '/') : filledPieces path = [] := by
  rw [filledPieces,List.filter_eq_nil_iff]
  intro piece member
  have empty : piece = [] := List.eq_nil_iff_forall_not_mem.mpr fun c inside =>
    (mem_splitOn member inside).2 (slashes c (mem_splitOn member inside).1)
  simp [empty]

theorem filledPieces_append (before after : List Char) :
    filledPieces (before ++ '/' :: after) = filledPieces before ++ filledPieces after := by
  rw [filledPieces,List.splitOn_append_cons_self,List.filter_append]
  rfl

theorem filledPieces_single {piece : List Char} (filled : piece ≠ []) (whole : '/' ∉ piece) :
    filledPieces piece = [piece] := by
  rw [filledPieces,List.splitOn_eq_singleton whole]
  simp [filled]

theorem LastPiece.getLast? {path piece : List Char} (last : LastPiece path piece) :
    (filledPieces path).getLast? = some piece := by
  obtain ⟨before,after,rfl,filled,whole,left,right⟩ := last
  have ending : filledPieces (piece ++ after) = [piece] := by
    cases after with
    | nil => rw [List.append_nil,filledPieces_single filled whole]
    | cons c after =>
      rw [List.forall_mem_cons] at right
      obtain ⟨rfl,slashes⟩ := right
      rw [filledPieces_append,filledPieces_single filled whole,filledPieces_slashes slashes,List.append_nil]
  rcases List.eq_nil_or_concat before with rfl | ⟨before,c,rfl⟩
  · rw [List.nil_append,ending]
    rfl
  · obtain rfl : c = '/' := left c (by simp)
    have path : before ++ ['/'] ++ piece ++ after = before ++ '/' :: (piece ++ after) := by simp
    rw [List.concat_eq_append,path,filledPieces_append,ending,List.getLast?_concat]

/-- A path that does not consist of slashes has a last piece. -/
theorem exists_lastPiece (path : List Char) : (∀ c ∈ path, c = '/') ∨ ∃ piece, LastPiece path piece := by
  -- from the front: a character joins the piece that follows only where nothing stands between them
  induction path with
  | nil => exact .inl (List.forall_mem_nil _)
  | cons c path ih =>
    by_cases slash : c = '/'
    · subst slash
      refine ih.imp (fun slashes => List.forall_mem_cons.mpr ⟨rfl,slashes⟩) ?_
      rintro ⟨piece,before,after,rfl,filled,whole,left,right⟩
      refine ⟨piece,'/' :: before,after,by simp,filled,whole,?_,right⟩
      cases before with
      | nil => simp
      | cons d before => simpa using left
    · right
      rcases ih with slashes | ⟨piece,before,after,rfl,filled,whole,left,right⟩
      · exact ⟨[c],[],path,rfl,List.cons_ne_nil _ _,by simpa using Ne.symm slash,by simp,slashes⟩
      · cases before with
        | nil =>
          refine ⟨c :: piece,[],after,rfl,List.cons_ne_nil _ _,?_,by simp,right⟩
          simp [Ne.symm slash,whole]
        | cons d before =>
          exact ⟨piece,c :: d :: before,after,rfl,filled,whole,by simpa using left,right⟩

theorem getLast?_filledPieces {path piece : List Char} :
    (filledPieces path).getLast? = some piece ↔ LastPiece path piece := by
  refine ⟨fun last => ?_,LastPiece.getLast?⟩
  rcases exists_lastPiece path with slashes | ⟨other,found⟩
  · rw [filledPieces_slashes slashes] at last
    cases last
  · rw [found.getLast?] at last
    exact Option.some.inj last ▸ found

theorem isParameterPiece_iff {piece : List Char} :
    isParameterPiece (String.ofList piece) = true ↔ ∃ inner, piece = '{' :: (inner ++ ['}']) := by
  rw [isParameterPiece,String.toList_ofList,Bool.and_eq_true,decide_eq_true_eq,decide_eq_true_eq]
  constructor
  · rintro ⟨opened,closed⟩
    obtain ⟨rest,rfl⟩ := List.head?_eq_some_iff.mp opened
    rcases List.eq_nil_or_concat rest with rfl | ⟨inner,c,rfl⟩
    · simp at closed
    · rw [List.concat_eq_append,← List.cons_append,List.getLast?_concat] at closed
      obtain rfl := Option.some.inj closed
      exact ⟨inner,by rw [List.concat_eq_append]⟩
  · rintro ⟨inner,rfl⟩
    rw [← List.cons_append,List.getLast?_concat]
    exact ⟨rfl,rfl⟩

theorem endsInParameter_iff (path : String) :
    (pathPieces path).getLast?.any isParameterPiece = true ↔ EndsInParameter path := by
  have pieces : pathPieces path = (filledPieces path.toList).map String.ofList := rfl
  simp only [pieces,List.getLast?_map,Option.any_map,Option.any_eq_true,isParameterPiece_iff,
    getLast?_filledPieces,EndsInParameter]
  constructor
  · rintro ⟨_,last,inner,rfl⟩
    exact ⟨inner,last⟩
  · rintro ⟨inner,last⟩
    exact ⟨_,last,inner,rfl⟩

end Ending

section Made

theorem routeVerb_lead (path : String) (method : Method) :
    RouteLead path method (routeVerb method.verb ((pathPieces path).getLast?.any isParameterPiece)) := by
  have ending := endsInParameter_iff path
  cases method with
  | get =>
    cases single : (pathPieces path).getLast?.any isParameterPiece with
    | true => exact .single (ending.mp single)
    | false => exact .several (by rw [← ending,single]; exact Bool.false_ne_true)
  | put => exact .put
  | post => exact .post
  | delete => exact .delete
  | options => exact .options
  | patch => exact .patch

theorem stems_refl (words : List String) : List.Forall₂ Stem words words :=
  List.forall₂_same.mpr fun word _ => .whole word

/-- The subject of a route is made of its words, whatever the casing. -/
theorem exists_routeWords (path : String) : ∃ words, RouteWords path words ∧ ∀ casing,
    routeSubject casing (pathPieces path) ((pathPieces path).getLast?.any isParameterPiece) =
      String.join (words.map casing) := by
  have named : (pathPieces path).filter (fun piece => !isParameterPiece piece) = resources path := rfl
  cases ending : (pathPieces path).getLast?.any isParameterPiece with
  | false => exact ⟨resources path,⟨stems_refl _,rfl,fun _ => rfl⟩,fun _ => rfl⟩
  | true =>
    have single := (endsInParameter_iff path).mp ending
    rcases List.eq_nil_or_concat' (resources path) with none | ⟨earlier,last,split⟩
    · have words : RouteWords path [] := {
        stems := by rw [none]; exact .nil
        earlier := by rw [none]
        whole := fun other => absurd single other }
      exact ⟨[],words,fun casing => by simp [routeSubject,named,none]⟩
    · have words : RouteWords path (earlier ++ [singular last]) := {
        stems := by rw [split]; exact List.rel_append (stems_refl earlier) (.cons (singular_stem last) .nil)
        earlier := by rw [split,List.dropLast_concat,List.dropLast_concat]
        whole := fun other => absurd single other }
      exact ⟨_,words,fun casing => by simp [routeSubject,named,split]⟩

theorem routeNameIn_words (method : Method) (path : String) : ∃ lead words,
    RouteLead path method lead ∧ RouteWords path words ∧
      ∀ casing, routeNameIn casing method.verb path = lead ++ String.join (words.map casing) := by
  obtain ⟨words,named,subject⟩ := exists_routeWords path
  refine ⟨_,words,routeVerb_lead path method,named,fun casing => ?_⟩
  rw [← subject casing]
  rfl

end Made

section Alphanum

theorem Stem.ascii {word stem : String} (own : Stem word stem) (ascii : Ascii word) : Ascii stem := by
  cases own with
  | whole => exact ascii
  | ies => exact ascii_append.mpr ⟨(ascii_append.mp ascii).1,by decide⟩
  | es => exact (ascii_append.mp ascii).1
  | s => exact (ascii_append.mp ascii).1

theorem stems_ascii {words stems : List String} (cut : List.Forall₂ Stem words stems)
    (ascii : ∀ word ∈ words, Ascii word) : ∀ stem ∈ stems, Ascii stem := by
  induction cut with
  | nil => exact List.forall_mem_nil _
  | cons head _ ih =>
    rw [List.forall_mem_cons] at ascii ⊢
    exact ⟨head.ascii ascii.1,ih ascii.2⟩

theorem resources_ascii {path : String} (ascii : Ascii path) : ∀ word ∈ resources path, Ascii word := by
  intro word member
  obtain ⟨piece,inside,rfl⟩ := List.mem_map.mp (List.mem_filter.mp member).1
  intro c own
  rw [String.toList_ofList] at own
  exact ascii c (mem_splitOn (List.mem_filter.mp inside).1 own).1

theorem RouteWords.alphanum {path : String} {words : List String} (named : RouteWords path words) (ascii : Ascii path)
    {casing : String → String} (cased : AlphanumCasing casing) : Alphanum (String.join (words.map casing)) :=
  alphanum_join (List.forall_mem_map.mpr fun word member =>
    cased word (stems_ascii named.stems (resources_ascii ascii) word member))

end Alphanum

section Settled

theorem Alphanum.settled {name : String} (plain : Alphanum name) {c : Char} (first : name.toList.head? = some c)
    (starts : isIdentifierStart c = true) : Settled name := by
  have identifier : isIdentifier name = true := by
    obtain ⟨rest,chars⟩ := List.head?_eq_some_iff.mp first
    rw [isIdentifier_cons chars,starts,Bool.true_and,List.all_eq_true]
    intro d member
    have own : d.isAlphanum = true := plain d (chars ▸ List.mem_cons_of_mem c member)
    rw [isIdentifierPart,isAlphanumeric_ascii (isAlphanum_ascii own),own]
    rfl
  have kept : operationName name = name := by
    have same : ∀ c ∈ name.toList, (if c = ' ' || c = '.' then '_' else c) = id c := by
      intro c member
      refine if_neg fun replaced => ?_
      rw [Bool.or_eq_true,decide_eq_true_eq,decide_eq_true_eq] at replaced
      rcases replaced with rfl | rfl
      · exact absurd (plain ' ' member) (by decide)
      · exact absurd (plain '.' member) (by decide)
    rw [operationName,List.map_congr_left same,List.map_id,String.ofList_toList]
  exact ⟨identifier,kept,(functionName_declarable_iff name).mpr identifier⟩

variable {path lead : String} {method : Method}

theorem RouteLead.alphanum (own : RouteLead path method lead) : Alphanum lead := by
  cases own <;> decide

theorem RouteLead.starts (own : RouteLead path method lead) :
    ∃ c, lead.toList.head? = some c ∧ isIdentifierStart c = true := by
  rw [← Option.any_eq_true]
  cases own <;> decide

theorem RouteLead.settled (own : RouteLead path method lead) {rest : String} (plain : Alphanum rest) :
    Settled (lead ++ rest) := by
  obtain ⟨c,first,starts⟩ := own.starts
  have head : (lead ++ rest).toList.head? = some c := by
    rw [String.toList_append,List.head?_append,first,Option.some_or]
  exact (own.alphanum.append plain).settled head starts

end Settled

/-- The casing in use leaves letters and digits of ASCII texts, and with any casing that does, the name for an ASCII path
is settled: a prefix for the method, and the words of the path behind it. -/
theorem routeNames_settled : AlphanumCasing Text.pascalCase ∧
    ∀ casing, AlphanumCasing casing → ∀ method path, Ascii path →
      (∃ lead words, RouteLead path method lead ∧ RouteWords path words ∧
        routeNameIn casing method.verb path = lead ++ String.join (words.map casing)) ∧
      Settled (routeNameIn casing method.verb path) := by
  refine ⟨pascalCase_alphanum,fun casing cased method path ascii => ?_⟩
  obtain ⟨lead,words,led,named,made⟩ := routeNameIn_words method path
  refine ⟨⟨lead,words,led,named,made casing⟩,?_⟩
  rw [made casing]
  exact led.settled (named.alphanum ascii cased)

/-- A path with empty pieces, and with a slash after the parameter that it ends in. -/
def categoryPath : String := "//stores/\x7bstore\x7d/Food-categories/\x7bid\x7d/"

theorem routeNames_settled_category :
    routeName "GET" categoryPath = "getStoresFoodCategory" ∧
      (∃ lead words, RouteLead categoryPath .get lead ∧ RouteWords categoryPath words ∧
        "getStoresFoodCategory" = lead ++ String.join (words.map Text.pascalCase)) ∧
      Settled "getStoresFoodCategory" ∧
    routeName "DELETE" "/" = "delete" ∧ Settled "delete" ∧ functionName "delete" = "delete_" := by
  have single : routeNameIn Text.pascalCase "GET" categoryPath = "getStoresFoodCategory" := by decide +kernel
  have bare : routeNameIn Text.pascalCase "DELETE" "/" = "delete" := by decide +kernel
  obtain ⟨cased,settled⟩ := routeNames_settled
  obtain ⟨⟨lead,words,led,named,made⟩,category⟩ := settled Text.pascalCase cased .get categoryPath (by decide)
  obtain ⟨_,root⟩ := settled Text.pascalCase cased .delete "/" (by decide)
  rw [Method.verb,single] at made category
  rw [Method.verb,bare] at root
  exact ⟨single,⟨lead,words,led,named,made⟩,category,bare,root,by decide⟩

end FlowClient
