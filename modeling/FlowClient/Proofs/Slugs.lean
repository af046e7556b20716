import FlowClient.Package.Manifest
import FlowClient.Proofs.Letters
import FlowClient.Proofs.Pieces

/-! Slugs. The dashes of a slug separate the words of its title, in lowercase, so it is in kebab case; and a text in
kebab case is its own slug. -/

namespace FlowClient

def alphanumerics (cs : List Char) : List Char := cs.filter Text.isAlphanumeric

/-- What stands in a title between one character that is no letter or numeral and the next one. -/
def titlePieces (title : List Char) : List (List Char) := title.splitOnP fun c => !Text.isAlphanumeric c

/-- The words of a title are its runs of letters and numerals, each as far as it goes. -/
def titleWords (title : List Char) : List (List Char) :=
  (titlePieces title).filter fun piece => !piece.isEmpty

/-- Letters and numerals, none of them an ASCII capital, with single dashes between some of them. -/
structure Kebab (cs : List Char) : Prop where
  filled : cs ≠ []
  spelled : ∀ c ∈ cs, (Text.isAlphanumeric c = true ∨ c = '-') ∧ c.isUpper = false
  begun : cs.head? ≠ some '-'
  ended : cs.getLast? ≠ some '-'
  single : ¬ ['-','-'] <:+: cs

/-- A word as it stands in kebab case. -/
structure KebabWord (word : List Char) : Prop where
  filled : word ≠ []
  spelled : ∀ c ∈ word, Text.isAlphanumeric c = true ∧ c.isUpper = false

theorem alphanumeric_ne_dash {c : Char} (own : Text.isAlphanumeric c = true) : c ≠ '-' := by
  rintro rfl
  revert own
  decide

section Words

theorem titlePieces_own {c : Char} (own : Text.isAlphanumeric c = true) (rest : List Char) :
    titlePieces (c :: rest) = (titlePieces rest).modifyHead (c :: ·) := by
  rw [titlePieces,List.splitOnP_cons_eq_if_modifyHead,if_neg (by simp [own])]
  rfl

theorem titlePieces_gap {c : Char} (gap : Text.isAlphanumeric c = false) (rest : List Char) :
    titlePieces (c :: rest) = [] :: titlePieces rest := by
  rw [titlePieces,List.splitOnP_cons_eq_if_modifyHead,if_pos (by simp [gap])]
  rfl

theorem exists_titlePieces (title : List Char) : ∃ word pieces, titlePieces title = word :: pieces :=
  List.exists_cons_of_ne_nil (List.splitOnP_ne_nil _ title)

theorem titleWords_flatten (title : List Char) : (titleWords title).flatten = alphanumerics title := by
  have flat : (titlePieces title).flatten = alphanumerics title := by
    rw [titlePieces,splitOnP_flatten,alphanumerics]
    simp
  rw [← flat,titleWords,List.flatten_filter_not_isEmpty]

theorem titleWords_eq_nil {title : List Char} : titleWords title = [] ↔ alphanumerics title = [] := by
  rw [← titleWords_flatten,List.flatten_eq_nil_iff,List.eq_nil_iff_forall_not_mem]
  apply forall_congr'
  intro word
  refine ⟨fun absent member => absurd member absent,fun empty member => ?_⟩
  have filled := (List.mem_filter.mp member).2
  rw [empty member] at filled
  cases filled

end Words

section Kebab

/-- Dashes make a text kebab case where they separate words of it. -/
theorem kebab_iff {cs : List Char} : Kebab cs ↔ ∀ word ∈ cs.splitOn '-', KebabWord word := by
  constructor
  · intro kebab word member
    refine ⟨?_,fun c inside => ?_⟩
    · rintro rfl
      rcases nil_mem_splitOn.mp member with none | first | last | double
      · exact kebab.filled none
      · exact kebab.begun first
      · exact kebab.ended last
      · exact kebab.single double
    · obtain ⟨kept,other⟩ := mem_splitOn member inside
      exact (kebab.spelled c kept).imp_left (Or.resolve_right · other)
  · intro words
    have filled : [] ∉ cs.splitOn '-' := fun member => (words [] member).filled rfl
    rw [nil_mem_splitOn,not_or,not_or,not_or] at filled
    obtain ⟨some,begun,ended,single⟩ := filled
    refine ⟨some,fun c member => ?_,begun,ended,single⟩
    by_cases dash : c = '-'
    · subst dash
      exact ⟨.inr rfl,by decide⟩
    · have kept : c ∈ (cs.splitOn '-').flatten := by
        rw [List.splitOn_eq_splitOnP,splitOnP_flatten]
        simp [member,dash]
      obtain ⟨word,piece,inside⟩ := List.mem_flatten.mp kept
      exact ((words word piece).spelled c inside).imp_left Or.inl

theorem KebabWord.undashed {word : List Char} (own : KebabWord word) : '-' ∉ word := fun member =>
  alphanumeric_ne_dash (own.spelled '-' member).1 rfl

theorem KebabWord.map_toLower {word : List Char} (own : KebabWord word) : word.map Char.toLower = word := by
  have small : ∀ c ∈ word, c.toLower = id c := fun c inside =>
    toLower_eq_self (by simp [(own.spelled c inside).2])
  rw [List.map_congr_left small,List.map_id]

theorem kebabWord_toLower {title word : List Char} (member : word ∈ titleWords title) :
    KebabWord (word.map Char.toLower) := by
  obtain ⟨piece,filled⟩ := List.mem_filter.mp member
  refine ⟨by simpa using filled,List.forall_mem_map.mpr fun c inside => ?_⟩
  have own : Text.isAlphanumeric c = true := by simpa using (mem_splitOnP piece inside).2
  exact ⟨isAlphanumeric_toLower own,isUpper_toLower⟩

end Kebab

section Loop

def finishedSlug (slug : List Char) : List Char := (slug.dropWhile (· = '-')).reverse

/-- The pieces in lowercase with a dash in front of each, without the empty ones. -/
def dashedWords (pieces : List (List Char)) : List Char :=
  (pieces.filter fun piece => !piece.isEmpty).flatMap fun word => '-' :: word.map Char.toLower

theorem finishedSlug_undashed {slug : List Char} (last : slug.head? ≠ some '-') :
    finishedSlug slug = slug.reverse := by
  cases slug with
  | nil => rfl
  | cons c slug => simp_all [finishedSlug]

theorem lowered_head {c : Char} (own : Text.isAlphanumeric c = true) (slug : List Char) :
    (c.toLower :: slug).head? ≠ some '-' := fun dash =>
  alphanumeric_ne_dash (isAlphanumeric_toLower own) (Option.some.inj dash)

theorem intercalate_dashed (word : List Char) (words : List (List Char)) :
    ['-'].intercalate (word :: words) = word ++ words.flatMap ('-' :: ·) := by
  induction words generalizing word with
  | nil => simp
  | cons next words ih => rw [List.intercalate_cons_cons,ih]; simp

variable {c : Char} {slug : List Char} (rest : List Char)

theorem slugFrom_own (own : Text.isAlphanumeric c = true) (dashed : Bool) :
    slugFrom slug dashed (c :: rest) = slugFrom (c.toLower :: slug) false rest := by
  rw [slugFrom,if_pos own]

theorem slugFrom_gap (gap : Text.isAlphanumeric c = false) (filled : slug ≠ []) :
    slugFrom slug false (c :: rest) = slugFrom ('-' :: slug) true rest := by
  rw [slugFrom,if_neg (by simp [gap]),if_pos (by simpa using filled)]

/-- Nothing is added for a gap at the start or behind another one. -/
theorem slugFrom_skip (gap : Text.isAlphanumeric c = false) {dashed : Bool} (idle : dashed = true ∨ slug = []) :
    slugFrom slug dashed (c :: rest) = slugFrom slug true rest := by
  rw [slugFrom,if_neg (by simp [gap]),if_neg]
  rcases idle with rfl | rfl <;> simp

variable {rest}

/-- Behind a letter the loop goes on with the word that is open; behind a dash it waits for the next one. -/
theorem slugFrom_started (filled : slug ≠ []) (last : slug.head? ≠ some '-') {word : List Char}
    {pieces : List (List Char)} (split : titlePieces rest = word :: pieces) :
    finishedSlug (slugFrom slug false rest) = slug.reverse ++ word.map Char.toLower ++ dashedWords pieces ∧
    finishedSlug (slugFrom ('-' :: slug) true rest) = slug.reverse ++ dashedWords (word :: pieces) := by
  -- a letter opens a word in both states, and a gap leaves the second one, so one induction carries both
  induction rest generalizing slug word pieces with
  | nil =>
    obtain ⟨rfl,rfl⟩ := List.cons.inj split
    have undashed := finishedSlug_undashed last
    constructor
    · simpa [slugFrom,dashedWords] using undashed
    · simpa [slugFrom,dashedWords,finishedSlug] using undashed
  | cons c rest ih =>
    obtain ⟨next,later,split'⟩ := exists_titlePieces rest
    cases own : Text.isAlphanumeric c with
    | true =>
      rw [titlePieces_own own,split'] at split
      obtain ⟨rfl,rfl⟩ := List.cons.inj split
      have grown (held : List Char) : finishedSlug (slugFrom (c.toLower :: held) false rest) =
          (c.toLower :: held).reverse ++ next.map Char.toLower ++ dashedWords later :=
        (ih (List.cons_ne_nil _ held) (lowered_head own held) split').1
      rw [slugFrom_own rest own,slugFrom_own rest own,grown,grown]
      simp [dashedWords]
    | false =>
      rw [titlePieces_gap own,split'] at split
      obtain ⟨rfl,rfl⟩ := List.cons.inj split
      have waiting := (ih filled last split').2
      rw [slugFrom_gap rest own filled,slugFrom_skip rest own (.inl rfl),waiting]
      simp [dashedWords]

theorem slugFrom_nil (dashed : Bool) (title : List Char) : finishedSlug (slugFrom [] dashed title) =
    ['-'].intercalate ((titleWords title).map (List.map Char.toLower)) := by
  induction title generalizing dashed with
  | nil => rfl
  | cons c rest ih =>
    obtain ⟨next,later,split⟩ := exists_titlePieces rest
    cases own : Text.isAlphanumeric c with
    | true =>
      have started := (slugFrom_started (List.cons_ne_nil _ []) (lowered_head own []) split).1
      rw [slugFrom_own rest own,started,titleWords,titlePieces_own own,split]
      simp [intercalate_dashed,dashedWords,List.flatMap_map]
    | false =>
      have same : titleWords (c :: rest) = titleWords rest := by
        rw [titleWords,titlePieces_gap own]
        rfl
      rw [slugFrom_skip rest own (.inr rfl),ih,same]

end Loop

section Slug

/-- The words of the title in lowercase, with a dash between each two. -/
theorem slugChars_words (title : List Char) :
    slugChars title = ['-'].intercalate ((titleWords title).map (List.map Char.toLower)) :=
  slugFrom_nil false title

theorem slugChars_splitOn {title : List Char} (some : alphanumerics title ≠ []) :
    (slugChars title).splitOn '-' = (titleWords title).map (List.map Char.toLower) := by
  have words : (titleWords title).map (List.map Char.toLower) ≠ [] := by
    simpa [titleWords_eq_nil] using some
  have undashed : ∀ word ∈ (titleWords title).map (List.map Char.toLower), '-' ∉ word :=
    List.forall_mem_map.mpr fun word member => (kebabWord_toLower member).undashed
  rw [slugChars_words]
  exact List.splitOn_intercalate '-' undashed words

theorem kebab_slugChars {title : List Char} (some : alphanumerics title ≠ []) : Kebab (slugChars title) := by
  rw [kebab_iff,slugChars_splitOn some,List.forall_mem_map]
  exact fun word member => kebabWord_toLower member

theorem slug_wordless {title : String} (none : alphanumerics title.toList = []) : slug title = "api-client" := by
  have chars : slugChars title.toList = [] := by
    rw [slugChars_words,titleWords_eq_nil.mpr none]
    rfl
  rw [slug,chars]
  rfl

theorem slug_filled {title : String} (filled : slugChars title.toList ≠ []) :
    slug title = String.ofList (slugChars title.toList) := by
  rw [slug]
  exact if_neg (by simpa using filled)

theorem toList_slug {title : String} (some : alphanumerics title.toList ≠ []) :
    (slug title).toList = slugChars title.toList := by
  rw [slug_filled (kebab_slugChars some).filled,String.toList_ofList]

theorem kebab_fallback : Kebab "api-client".toList := by
  have own : slugChars "api-client".toList = "api-client".toList := by decide
  rw [← own]
  exact kebab_slugChars (by decide)

theorem kebab_slug (title : String) : Kebab (slug title).toList := by
  by_cases none : alphanumerics title.toList = []
  · rw [slug_wordless none]
    exact kebab_fallback
  · rw [toList_slug none]
    exact kebab_slugChars none

/-- Words of kebab case are found again between their dashes. -/
theorem titlePieces_intercalate {words : List (List Char)} (some : words ≠ [])
    (own : ∀ word ∈ words, KebabWord word) : titlePieces (['-'].intercalate words) = words := by
  have whole {word : List Char} (kebab : KebabWord word) : ∀ c ∈ word, (!Text.isAlphanumeric c) = false :=
    fun c inside => by simp [(kebab.spelled c inside).1]
  induction words with
  | nil => exact absurd rfl some
  | cons word words ih =>
    rw [List.forall_mem_cons] at own
    obtain ⟨first,rest⟩ := own
    cases words with
    | nil =>
      rw [List.intercalate_singleton,titlePieces]
      exact List.splitOnP_eq_singleton (whole first)
    | cons next words =>
      rw [List.intercalate_cons_cons,List.append_assoc,List.singleton_append,titlePieces,
        List.splitOnP_append_cons_of_forall_mem (whole first) '-' (by decide)]
      exact congrArg (word :: ·) (ih (List.cons_ne_nil _ _) rest)

theorem Kebab.titleWords_eq {cs : List Char} (kebab : Kebab cs) : titleWords cs = cs.splitOn '-' := by
  have words := kebab_iff.mp kebab
  have pieces : titlePieces cs = cs.splitOn '-' := by
    have found := titlePieces_intercalate (List.splitOn_ne_nil '-' cs) words
    rwa [List.intercalate_splitOn] at found
  rw [titleWords,pieces,List.filter_eq_self]
  exact fun word member => by simpa using (words word member).filled

theorem Kebab.slugChars_eq {cs : List Char} (kebab : Kebab cs) : slugChars cs = cs := by
  have small : ∀ word ∈ cs.splitOn '-', word.map Char.toLower = id word := fun word member =>
    (kebab_iff.mp kebab word member).map_toLower
  rw [slugChars_words,kebab.titleWords_eq,List.map_congr_left small,List.map_id,List.intercalate_splitOn]

theorem slug_eq_self_iff {s : String} : slug s = s ↔ Kebab s.toList := by
  constructor
  · intro same
    rw [← same]
    exact kebab_slug s
  · intro kebab
    rw [slug_filled (by rw [kebab.slugChars_eq]; exact kebab.filled),kebab.slugChars_eq,String.ofList_toList]

theorem slug_splitOn {title : String} (some : alphanumerics title.toList ≠ []) :
    (slug title).toList.splitOn '-' = (titleWords title.toList).map (List.map Char.toLower) := by
  rw [toList_slug some,slugChars_splitOn some]

theorem slug_alphanumerics {title : String} (some : alphanumerics title.toList ≠ []) :
    alphanumerics (slug title).toList = (alphanumerics title.toList).map Char.toLower := by
  rw [← titleWords_flatten,(kebab_slug title).titleWords_eq,slug_splitOn some,← titleWords_flatten,
    List.map_flatten]

end Slug

/-- A slug is in kebab case. Its letters and numerals are those of the title in order, with ASCII capitals in lowercase,
and its dashes stand between the words of the title; a title without words has a fixed slug. The texts that are their
own slugs are those in kebab case, so a slug is its own. -/
theorem slugs_kebab :
    (∀ title, Kebab (slug title).toList ∧ slug (slug title) = slug title ∧
      (alphanumerics title.toList = [] ∧ slug title = "api-client" ∨
        alphanumerics title.toList ≠ [] ∧
          alphanumerics (slug title).toList = (alphanumerics title.toList).map Char.toLower ∧
          (slug title).toList.splitOn '-' = (titleWords title.toList).map (List.map Char.toLower))) ∧
    ∀ s, slug s = s ↔ Kebab s.toList := by
  refine ⟨fun title => ⟨kebab_slug title,slug_eq_self_iff.mpr (kebab_slug title),?_⟩,fun s => slug_eq_self_iff⟩
  by_cases none : alphanumerics title.toList = []
  · exact .inl ⟨none,slug_wordless none⟩
  · exact .inr ⟨none,slug_alphanumerics none,slug_splitOn none⟩

theorem slugs_kebab_titles :
    slug "  Émile: my API (v2)! " = "Émile-my-api-v2" ∧ Kebab "Émile-my-api-v2".toList ∧
      slug "Émile-my-api-v2" = "Émile-my-api-v2" ∧ slug "!!!" = "api-client" := by
  have worded : slug "  Émile: my API (v2)! " = "Émile-my-api-v2" := by decide +kernel
  have wordless : slug "!!!" = "api-client" := by decide +kernel
  obtain ⟨each,_⟩ := slugs_kebab
  obtain ⟨kebab,stable,_⟩ := each "  Émile: my API (v2)! "
  rw [worded] at kebab stable
  exact ⟨worded,kebab,stable,wordless⟩

end FlowClient
