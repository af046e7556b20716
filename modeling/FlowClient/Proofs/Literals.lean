import FlowClient.Flow.Printer
import FlowClient.Proofs.Letters
import Mathlib.Tactic.SplitIfs

/-! String and template literals as JavaScript reads them. Reading gives the printed text back, whatever its
characters, and stops where the literal ends. What is interpolated has to be spelled as an identifier. -/

namespace FlowClient

/-- The characters that start an identifier and those that continue one. JavaScript takes them from the Unicode
version at hand, which leaves ASCII as it is. -/
structure Lexis where
  starts : Char → Bool
  continues : Char → Bool
  starts_ascii : ∀ c, c.toNat < 128 → starts c = (c.isAlpha || c = '_' || c = '$')
  continues_ascii : ∀ c, c.toNat < 128 → continues c = (c.isAlphanum || c = '_' || c = '$')

def Lexis.spells (lexis : Lexis) : List Char → Bool
  | [] => false
  | c :: rest => lexis.starts c && rest.all lexis.continues

/-- The characters by which names are told from what has to be quoted. -/
def ownLexis : Lexis where
  starts := isIdentifierStart
  continues := isIdentifierPart
  starts_ascii := fun c ascii => by rw [isIdentifierStart,Text.isLetter,if_pos ascii]
  continues_ascii := fun c ascii => by rw [isIdentifierPart,isAlphanumeric_ascii ascii]

theorem ownLexis_spells (name : String) : ownLexis.spells name.toList = isIdentifier name := by
  rw [isIdentifier]
  cases name.toList <;> rfl

/-- What a backslash before the character stands for. Escapes by number and broken lines are refused. -/
def escaped? (c : Char) : Option Char :=
  match [('n','\n'), ('r','\r'), ('t','\t'), ('b','\x08'), ('f','\x0c'), ('v','\x0b')].lookup c with
  | some value => some value
  | none =>
    if c.isDigit || ['x','u','\n','\r','\u2028','\u2029'].contains c then none else some c

/-- The value of a string literal and what follows it, from after its opening quote. -/
def readQuoted : List Char → Option (List Char × List Char)
  | [] => none
  | '\'' :: rest => some ([], rest)
  | '\\' :: c :: rest =>
    (escaped? c).bind fun value => (readQuoted rest).map (Prod.map (value :: ·) id)
  | c :: rest =>
    if ['\\','\n','\r'].contains c then none else (readQuoted rest).map (Prod.map (c :: ·) id)

/-- The part put before others. Text before text is one piece of text. -/
def TemplatePart.before : TemplatePart → List TemplatePart → List TemplatePart
  | .literal text, .literal more :: rest => .literal (text ++ more) :: rest
  | part, rest => part :: rest

def joinLiterals (parts : List TemplatePart) : List TemplatePart := parts.foldr TemplatePart.before []

section Reader

variable (lexis : Lexis)

mutual

/-- The parts of a template literal and what follows it, from after its opening backtick. A line end is
read as a line feed, however it is written. -/
def readTemplate : List Char → Option (List TemplatePart × List Char)
  | [] => none
  | '`' :: rest => some ([], rest)
  | '\\' :: c :: rest => (escaped? c).bind fun value =>
    (readTemplate rest).map (Prod.map (TemplatePart.literal (String.singleton value)).before id)
  | '$' :: '{' :: rest => readVariable [] rest
  | '\r' :: '\n' :: rest =>
    (readTemplate rest).map (Prod.map (TemplatePart.literal "\n").before id)
  | c :: rest =>
    if c = '\\' then none
    else (readTemplate rest).map
      (Prod.map (TemplatePart.literal (String.singleton (if c = '\r' then '\n' else c))).before id)

/-- An identifier up to its closing brace, after what is held of it, and the template from there on. -/
def readVariable (held : List Char) : List Char → Option (List TemplatePart × List Char)
  | [] => none
  | '}' :: rest =>
    if lexis.spells held then
      (readTemplate rest).map (Prod.map (TemplatePart.variable (String.ofList held)).before id)
    else none
  | c :: rest => readVariable (held ++ [c]) rest

end

end Reader

/-- What is left after a reading is shorter than what was read. -/
def Shortens {α : Type} (read : Option (α × List Char)) (cs : List Char) : Prop :=
  ∀ result ∈ read, result.2.length < cs.length

theorem Shortens.cons {α : Type} {read : Option (α × List Char)} {cs : List Char} (short : Shortens read cs)
    (f : α → α) (c : Char) : Shortens (read.map (Prod.map f id)) (c :: cs) := by
  intro result found
  obtain ⟨inner,read,rfl⟩ := Option.map_eq_some_iff.mp found
  exact Nat.lt_succ_of_lt (short inner read)

theorem Shortens.longer {α : Type} {read : Option (α × List Char)} {cs : List Char} (short : Shortens read cs)
    (c : Char) : Shortens read (c :: cs) :=
  fun result found => Nat.lt_succ_of_lt (short result found)

section Quoted

theorem readQuoted_plain {c : Char} (plain : c ∉ ['\'','\\','\n','\r']) (rest : List Char) :
    readQuoted (c :: rest) = (readQuoted rest).map (Prod.map (c :: ·) id) := by
  simp only [List.mem_cons,List.not_mem_nil,or_false,not_or] at plain
  obtain ⟨quote,backslash,feed,carriage⟩ := plain
  rw [readQuoted]
  all_goals simp [*]

theorem readQuoted_escape (c : Char) (rest : List Char) :
    readQuoted (quoteEscape c ++ rest) = (readQuoted rest).map (Prod.map (c :: ·) id) := by
  unfold quoteEscape
  split_ifs with backslash quote feed carriage
  · subst backslash
    rfl
  · subst quote
    rfl
  · subst feed
    rfl
  · subst carriage
    rfl
  · exact readQuoted_plain (by simp [backslash,quote,feed,carriage]) rest

theorem readQuoted_quote (text rest : List Char) :
    readQuoted (text.flatMap quoteEscape ++ '\'' :: rest) = some (text,rest) := by
  induction text with
  | nil => rfl
  | cons c text ih =>
    rw [List.flatMap_cons,List.append_assoc,readQuoted_escape,ih]
    rfl

theorem toList_quote_append (text : String) (rest : List Char) :
    (quote text).toList ++ rest = '\'' :: (text.toList.flatMap quoteEscape ++ '\'' :: rest) := by
  simp [quote,quoteChars]

/-- A printed string literal tells its text and where it ends. -/
theorem quote_cancel {text other : String} {rest after : List Char}
    (same : (quote text).toList ++ rest = (quote other).toList ++ after) : text = other ∧ rest = after := by
  rw [toList_quote_append,toList_quote_append,List.cons_inj_right] at same
  have read := readQuoted_quote text.toList rest
  rw [same,readQuoted_quote] at read
  obtain ⟨texts,rests⟩ := Prod.mk.inj (Option.some.inj read)
  exact ⟨String.toList_inj.mp texts.symm,rests.symm⟩

theorem readQuoted_shortens (cs : List Char) : Shortens (readQuoted cs) cs := by
  fun_induction readQuoted cs with
  | case1 => simp [Shortens]
  | case2 rest => simp [Shortens]
  | case3 c rest ih =>
    intro result found
    obtain ⟨value,_,found⟩ := Option.bind_eq_some_iff.mp found
    exact (ih.cons (value :: ·) c).longer '\\' result found
  | case4 => simp [Shortens]
  | case5 c rest _ _ _ ih => exact ih.cons (c :: ·) c

end Quoted

section Template

variable (lexis : Lexis)

def textBefore (text : List Char) (parts : List TemplatePart) : List TemplatePart :=
  text.foldr (fun c => (TemplatePart.literal (String.singleton c)).before) parts

theorem before_before (text more : String) (parts : List TemplatePart) :
    (TemplatePart.literal text).before ((TemplatePart.literal more).before parts) =
      (TemplatePart.literal (text ++ more)).before parts := by
  cases parts with
  | nil => rfl
  | cons part parts => cases part <;> simp [TemplatePart.before,String.append_assoc]

theorem textBefore_eq {text : List Char} (filled : text ≠ []) (parts : List TemplatePart) :
    textBefore text parts = (TemplatePart.literal (String.ofList text)).before parts := by
  induction text with
  | nil => exact absurd rfl filled
  | cons c text ih =>
    rw [textBefore,List.foldr_cons]
    cases text with
    | nil => rfl
    | cons d text =>
      have whole : String.singleton c ++ String.ofList (d :: text) = String.ofList (c :: d :: text) := by
        apply String.toList_inj.mp
        simp
      rw [← textBefore,ih (List.cons_ne_nil _ _),before_before,whole]

theorem readTemplate_plain {c : Char} {rest : List Char} (plain : c ∉ ['`','\\','\r'])
    (apart : c = '$' → rest.head? ≠ some '{') : readTemplate lexis (c :: rest) =
      (readTemplate lexis rest).map (Prod.map (TemplatePart.literal (String.singleton c)).before id) := by
  simp only [List.mem_cons,List.not_mem_nil,or_false,not_or] at plain
  obtain ⟨tick,backslash,carriage⟩ := plain
  rw [readTemplate]
  · simp [*]
  · exact tick
  · exact fun _ _ same _ => backslash same
  · rintro _ dollar rfl
    exact apart dollar rfl
  · exact fun _ same _ => carriage same

theorem readTemplate_escape (c value : Char) (escape : escaped? c = some value) (rest : List Char) :
    readTemplate lexis ('\\' :: c :: rest) =
      (readTemplate lexis rest).map (Prod.map (TemplatePart.literal (String.singleton value)).before id) := by
  rw [readTemplate,escape,Option.bind_some]

theorem map_textBefore (c : Char) (text : List Char) (read : Option (List TemplatePart × List Char)) :
    (read.map (Prod.map (textBefore text) id)).map
        (Prod.map (TemplatePart.literal (String.singleton c)).before id) =
      read.map (Prod.map (textBefore (c :: text)) id) := by
  cases read <;> rfl

theorem templateChars_head {text rest : List Char} (opens : (templateChars text ++ rest).head? = some '{') :
    text.head? = some '{' ∨ text = [] ∧ rest.head? = some '{' := by
  revert opens
  fun_cases templateChars text <;> simp

/-- Printed text is read as itself where no carriage return is in it and no brace comes after it. -/
theorem readTemplate_text {text rest : List Char} (returns : '\r' ∉ text) (apart : rest.head? ≠ some '{') :
    readTemplate lexis (templateChars text ++ rest) =
      (readTemplate lexis rest).map (Prod.map (textBefore text) id) := by
  fun_induction templateChars text with
  | case1 =>
    have kept : Prod.map (textBefore []) id = (id : List TemplatePart × List Char → _) := rfl
    rw [kept,Option.map_id_fun,List.nil_append,id_eq]
  | case2 text ih =>
    rw [List.cons_append,List.cons_append,readTemplate_escape lexis '\\' '\\' rfl,
      ih (List.not_mem_of_not_mem_cons returns),map_textBefore]
  | case3 text ih =>
    rw [List.cons_append,List.cons_append,readTemplate_escape lexis '`' '`' rfl,
      ih (List.not_mem_of_not_mem_cons returns),map_textBefore]
  | case4 text ih =>
    -- The brace is plain text again once the dollar sign before it is escaped.
    have later := ih (List.not_mem_of_not_mem_cons (List.not_mem_of_not_mem_cons returns))
    rw [List.cons_append,List.cons_append,List.cons_append,readTemplate_escape lexis '$' '$' rfl,
      readTemplate_plain lexis (by decide) (fun same => absurd same (by decide)),later,map_textBefore,map_textBefore]
  | case5 c text backslash tick dollar ih =>
    rw [List.cons_append,readTemplate_plain,ih (List.not_mem_of_not_mem_cons returns),map_textBefore]
    · have carriage : c ≠ '\r' := fun same => returns (by simp [same])
      simpa [carriage] using ⟨tick,backslash⟩
    · -- A brace after a dollar sign in the text is the case before this one, so it would come after the text.
      intro same opens
      rcases templateChars_head opens with inside | ⟨_,outside⟩
      · cases text with
        | nil => simp at inside
        | cons d text => exact dollar text same (by simpa using inside)
      · exact apart outside

theorem readVariable_name {name : List Char} (unclosed : '}' ∉ name) (held rest : List Char) :
    readVariable lexis held (name ++ '}' :: rest) =
      if lexis.spells (held ++ name) then
        (readTemplate lexis rest).map
          (Prod.map (TemplatePart.variable (String.ofList (held ++ name))).before id)
      else none := by
  induction name generalizing held with
  | nil => rw [List.nil_append,List.append_nil,readVariable]
  | cons c name ih =>
    rw [List.mem_cons,not_or] at unclosed
    obtain ⟨apart,others⟩ := unclosed
    rw [List.cons_append,readVariable,ih others,List.append_assoc,List.singleton_append]
    exact fun same => apart same.symm

/-- The part ends where it is printed to end, wherever it stands. -/
def TemplatePart.Closed : TemplatePart → Prop
  | .literal text => text ≠ "" ∧ text.toList.head? ≠ some '{' ∧ '\r' ∉ text.toList
  | .variable name => '}' ∉ name.toList

/-- What the part interpolates is an identifier. -/
def TemplatePart.spelled (lexis : Lexis) : TemplatePart → Bool
  | .literal _ => true
  | .variable name => lexis.spells name.toList

theorem printed_head {parts : List TemplatePart} (closed : ∀ part ∈ parts, part.Closed) (rest : List Char) :
    ((String.join (parts.map TemplatePart.print)).toList ++ '`' :: rest).head? ≠ some '{' := by
  cases parts with
  | nil => simp
  | cons part parts =>
    have here := closed part List.mem_cons_self
    rw [List.map_cons,String.join_cons,String.toList_append,List.append_assoc]
    obtain text | name := part
    · rw [TemplatePart.print,String.toList_ofList]
      intro opens
      rcases templateChars_head opens with first | ⟨empty,_⟩
      · exact here.2.1 first
      · exact here.1 (String.toList_eq_nil_iff.mp empty)
    · simp [TemplatePart.print]

/-- Parts whose names are identifiers are read as they are printed, with adjacent pieces of text as one, up to
the backtick that ends them. With any other name among them nothing is read. -/
theorem readTemplate_parts {parts : List TemplatePart} (closed : ∀ part ∈ parts, part.Closed)
    (rest : List Char) :
    readTemplate lexis ((String.join (parts.map TemplatePart.print)).toList ++ '`' :: rest) =
      if parts.all (·.spelled lexis) then some (joinLiterals parts,rest) else none := by
  induction parts with
  | nil => rfl
  | cons part parts ih =>
    obtain ⟨here,others⟩ := List.forall_mem_cons.mp closed
    rw [List.map_cons,String.join_cons,String.toList_append,List.append_assoc,List.all_cons]
    obtain text | name := part
    · obtain ⟨filled,_,returns⟩ := here
      rw [TemplatePart.print,String.toList_ofList,readTemplate_text lexis returns (printed_head others rest),
        ih others,TemplatePart.spelled,Bool.true_and]
      split
      · rw [Option.map_some,Prod.map_apply,textBefore_eq (by simpa using filled),String.ofList_toList]
        rfl
      · rfl
    · have opened : (TemplatePart.variable name).print.toList = '$' :: '{' :: (name.toList ++ ['}']) := by
        simp [TemplatePart.print]
      rw [opened,List.cons_append,List.cons_append,List.append_assoc,List.singleton_append,readTemplate,
        readVariable_name lexis here,ih others,List.nil_append,String.ofList_toList,TemplatePart.spelled]
      cases lexis.spells name.toList with
      | false => rfl
      | true =>
        rw [if_pos rfl,Bool.true_and]
        split <;> rfl

/-- A dollar sign before an interpolation is text, and so is an escaped backtick. -/
example : readTemplate ownLexis "$$\x7bid\x7d\\`` + 1".toList =
    some ([.literal "$", .variable "id", .literal "`"], " + 1".toList) := by decide

theorem readTemplate_shortens (cs : List Char) : Shortens (readTemplate lexis cs) cs := by
  apply readTemplate.induct lexis (fun cs => Shortens (readTemplate lexis cs) cs)
    (fun held cs => Shortens (readVariable lexis held cs) cs)
  case case1 => simp [Shortens,readTemplate]
  case case2 => simp [Shortens,readTemplate]
  case case3 =>
    intro c rest ih
    rw [readTemplate]
    intro result found
    obtain ⟨value,_,found⟩ := Option.bind_eq_some_iff.mp found
    exact (ih.cons _ c).longer '\\' result found
  case case4 =>
    intro rest ih
    rw [readTemplate]
    exact (ih.longer '{').longer '$'
  case case5 =>
    intro rest ih
    rw [readTemplate]
    exact (ih.cons _ '\n').longer '\r'
  case case6 =>
    intro rest _ alone _ _
    rw [readTemplate,if_pos rfl]
    · simp [Shortens]
    · decide
    · exact alone
    · simp
    · simp
  case case7 =>
    intro c rest tick alone dollar carriage backslash ih
    rw [readTemplate,if_neg backslash]
    · exact ih.cons _ c
    · exact tick
    · exact alone
    · exact dollar
    · exact carriage
  case case8 => simp [Shortens,readVariable]
  case case9 =>
    intro held rest spelled ih
    rw [readVariable,if_pos spelled]
    exact ih.cons _ '}'
  case case10 =>
    intro held rest other
    rw [readVariable,if_neg other]
    simp [Shortens]
  case case11 =>
    intro held c rest apart ih
    rw [readVariable]
    · exact ih.longer c
    · exact apart

end Template

section Word

/-- No identifier that ends before the text goes on in it. -/
def Ends (rest : List Char) : Prop := ∀ c ∈ rest.head?, isIdentifierPart c = false

theorem takeWhile_word {part : Char → Bool} {word rest : List Char} (parts : ∀ c ∈ word, part c = true)
    (ends : ∀ c ∈ rest.head?, part c = false) : (word ++ rest).takeWhile part = word := by
  rw [List.takeWhile_append_of_pos parts]
  cases rest with
  | nil => simp
  | cons c rest => simp [ends c rfl]

theorem dropWhile_word {part : Char → Bool} {word rest : List Char} (parts : ∀ c ∈ word, part c = true)
    (ends : ∀ c ∈ rest.head?, part c = false) : (word ++ rest).dropWhile part = rest := by
  rw [List.dropWhile_append_of_pos parts]
  cases rest with
  | nil => rfl
  | cons c rest => simp [ends c rfl]

theorem word_cancel {word other rest after : List Char} (parts : ∀ c ∈ word, isIdentifierPart c = true)
    (others : ∀ c ∈ other, isIdentifierPart c = true) (ends : Ends rest) (endsAfter : Ends after)
    (same : word ++ rest = other ++ after) : word = other ∧ rest = after := by
  constructor
  · rw [← takeWhile_word parts ends,same,takeWhile_word others endsAfter]
  · rw [← dropWhile_word parts ends,same,dropWhile_word others endsAfter]

theorem isIdentifierPart_of_start {c : Char} (start : isIdentifierStart c = true) :
    isIdentifierPart c = true := by
  simp only [isIdentifierStart,isIdentifierPart,Text.isAlphanumeric,Bool.or_eq_true,decide_eq_true_eq] at start ⊢
  exact start.imp_left (Or.imp_left Or.inl)

theorem isIdentifier_chars {name : String} (identifier : isIdentifier name = true) :
    (∃ c rest, name.toList = c :: rest ∧ isIdentifierStart c = true) ∧
      ∀ c ∈ name.toList, isIdentifierPart c = true := by
  unfold isIdentifier at identifier
  split at identifier
  · cases identifier
  · rename_i c rest chars
    rw [Bool.and_eq_true,List.all_eq_true] at identifier
    obtain ⟨start,parts⟩ := identifier
    rw [chars]
    exact ⟨⟨c,rest,rfl,start⟩,List.forall_mem_cons.mpr ⟨isIdentifierPart_of_start start,parts⟩⟩

end Word

end FlowClient
