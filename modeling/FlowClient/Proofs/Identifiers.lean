import FlowClient.Proofs.Bindings
import FlowClient.Proofs.EndpointPlaces

/-! Names as identifiers. Underscores at its end leave a name the identifier that it is or is not, and take every
reserved word away, so what the generated names are made of decides whether they can be written. -/

namespace FlowClient

/-- The name can be declared: it is an identifier and no reserved word. -/
def Declarable (name : String) : Prop := isIdentifier name = true ∧ isReserved name = false

instance (name : String) : Decidable (Declarable name) :=
  inferInstanceAs (Decidable (_ ∧ _))

/-- No numeral but an ASCII digit comes first. -/
def PlainHead (name : String) : Prop :=
  ∀ c ∈ name.toList.head?, Text.isAlphanumeric c = true → Text.isLetter c = true ∨ c.isDigit = true

instance (name : String) : Decidable (PlainHead name) :=
  match chars : name.toList.head? with
  | none => isTrue (by simp [PlainHead,chars])
  | some c => decidable_of_iff
      (Text.isAlphanumeric c = true → Text.isLetter c = true ∨ c.isDigit = true)
      (by simp [PlainHead,chars])

theorem isReserved_iff (name : String) : isReserved name = true ↔ name ∈ reservedWords := by
  rw [isReserved,List.contains_iff_mem]

theorem isReserved_eq_false (name : String) : isReserved name = false ↔ name ∉ reservedWords := by
  rw [← Bool.not_eq_true,isReserved_iff]

theorem reserved_bare : ∀ word ∈ reservedWords, word.toList.getLast? ≠ some '_' := fun word member =>
  reserved_and_generated_bare word (List.mem_append_left _ member)

theorem isIdentifier_cons {name : String} {c : Char} {rest : List Char} (chars : name.toList = c :: rest) :
    isIdentifier name = (isIdentifierStart c && rest.all isIdentifierPart) := by
  rw [isIdentifier,chars]

theorem isIdentifier_underscored {name : String} (filled : name ≠ "") (count : Nat) :
    isIdentifier (underscored name count) = isIdentifier name := by
  have underscores : (List.replicate count '_').all isIdentifierPart = true := by
    rw [List.all_replicate]
    cases count <;> rfl
  cases chars : name.toList with
  | nil => exact absurd (String.toList_eq_nil_iff.mp chars) filled
  | cons c rest =>
    have longer : (underscored name count).toList = c :: (rest ++ List.replicate count '_') := by
      rw [toList_underscored,chars,List.cons_append]
    rw [isIdentifier_cons longer,isIdentifier_cons chars,List.all_append,underscores,Bool.and_true]

theorem isReserved_functionName (id : String) : isReserved (functionName id) = false := by
  rw [functionName]
  split
  · have one : id ++ "_" = underscored id 1 := rfl
    rw [isReserved_eq_false,one]
    exact underscored_succ_not_mem id reserved_bare 0
  · rename_i free
    rwa [Bool.not_eq_true] at free

theorem isIdentifier_functionName (id : String) : isIdentifier (functionName id) = isIdentifier id := by
  rw [functionName]
  split
  · rename_i reserved
    have filled : id ≠ "" := by
      rintro rfl
      revert reserved
      decide
    exact isIdentifier_underscored filled 1
  · rfl

theorem functionName_declarable_iff (id : String) :
    Declarable (functionName id) ↔ isIdentifier id = true := by
  rw [Declarable,isReserved_functionName,isIdentifier_functionName]
  exact and_iff_left rfl

theorem responseAlias_declarable (locals : List String) : Declarable (responseAlias locals) := by
  obtain ⟨count,same,_⟩ := freshName_found (runtimeBindings ++ locals) "Response"
  rw [responseAlias,same,Declarable,isIdentifier_underscored (by decide),isReserved_eq_false]
  exact ⟨by decide,underscored_not_mem reserved_bare (by decide) count⟩

theorem runtimeBindings_declarable : ∀ name ∈ runtimeBindings, Declarable name := by decide

section Mended

theorem mended_part (c : Char) : isIdentifierPart (if isIdentifierPart c then c else '_') = true := by
  split
  · assumption
  · rfl

theorem isIdentifierStart_iff {c : Char} (part : isIdentifierPart c = true) (other : c.isDigit = false) :
    isIdentifierStart c = true ↔
      (Text.isAlphanumeric c = true → Text.isLetter c = true ∨ c.isDigit = true) := by
  have underscore : Text.isAlphanumeric '_' = false := by decide
  have dollar : Text.isAlphanumeric '$' = false := by decide
  simp only [isIdentifierStart,isIdentifierPart,Bool.or_eq_true,decide_eq_true_eq,other,
    Bool.false_eq_true,or_false] at part ⊢
  constructor
  · rintro ((letter | rfl) | rfl) numeric
    · exact letter
    · exact absurd numeric (by simp [underscore])
    · exact absurd numeric (by simp [dollar])
  · intro lettered
    exact part.imp_left (Or.imp_left lettered)

/-- Mended characters make an identifier unless a numeral leads them that does not count as a digit. -/
theorem identifierChars_identifier (name : List Char) :
    isIdentifier (String.ofList (identifierChars name)) = true ↔
      ∀ c ∈ name.head?, Text.isAlphanumeric c = true → Text.isLetter c = true ∨ c.isDigit = true := by
  cases name with
  | nil => exact iff_of_true (by decide) fun c none => (by cases none)
  | cons c rest =>
    have parts : (rest.map fun c => if isIdentifierPart c then c else '_').all isIdentifierPart = true := by
      rw [List.all_map,List.all_eq_true]
      exact fun d _ => mended_part d
    rw [isIdentifier,String.toList_ofList,identifierChars,List.map_cons]
    simp only [List.head?_cons,Option.mem_some_iff,forall_eq']
    by_cases part : isIdentifierPart c = true
    · rw [if_pos part]
      by_cases digit : c.isDigit = true
      · rw [if_pos digit]
        simp [isIdentifierStart,part,parts,digit]
      · rw [if_neg digit]
        rw [Bool.not_eq_true] at digit
        simp only [parts,Bool.and_true]
        exact isIdentifierStart_iff part digit
    · rw [if_neg part]
      have other : ('_'.isDigit = true) = False := by decide
      rw [if_neg (by rw [other]; exact not_false)]
      simp only [parts,Bool.and_true]
      exact iff_of_true rfl fun numeric => absurd (by simp [isIdentifierPart,numeric]) part

theorem parameterIdentifier_filled (name : String) : parameterIdentifier name ≠ "" := by
  have filled : identifierChars name.toList ≠ [] := by
    unfold identifierChars
    dsimp only
    split
    · exact List.cons_ne_nil _ _
    · split <;> exact List.cons_ne_nil _ _
  unfold parameterIdentifier
  dsimp only
  split
  · intro same
    have ending := congrArg String.toList same
    simp at ending
  · rwa [Ne,String.ofList_eq_empty_iff]

/-- What a parameter is bound to can be declared exactly where no foreign numeral leads its name. -/
theorem parameterIdentifier_declarable_iff (name : String) (count : Nat) :
    Declarable (underscored (parameterIdentifier name) count) ↔ PlainHead name := by
  have free := parameterIdentifier_not_mem name count
  rw [List.mem_append,not_or] at free
  rw [Declarable,isReserved_eq_false,isIdentifier_underscored (parameterIdentifier_filled name),
    and_iff_left free.1,PlainHead,← identifierChars_identifier]
  unfold parameterIdentifier
  dsimp only
  split
  · rename_i taken
    have one : String.ofList (identifierChars name.toList) ++ "_" =
      underscored (String.ofList (identifierChars name.toList)) 1 := rfl
    rw [one,isIdentifier_underscored]
    rintro same
    rw [same] at taken
    revert taken
    decide
  · rfl

end Mended

section Usable

theorem Bound.isIdentifier_iff {names : List String} {bound : List (String × String)}
    (sound : Bound names bound) {pair : String × String} (member : pair ∈ bound) :
    isIdentifier pair.2 = true ↔ PlainHead pair.1 := by
  have free := sound.free member
  obtain ⟨count,same⟩ := sound.mended pair member
  rw [same] at free ⊢
  rw [← parameterIdentifier_declarable_iff pair.1 count,Declarable,isReserved_eq_false]
  exact (and_iff_left free.1).symm

/-- Every path parameter is bound under its name, in order, and to a name of its own that is no reserved word and no
name which the function binds itself. It is an identifier exactly where no foreign numeral leads the parameter's
name. -/
theorem bindings_usable (path : List Argument) :
    (bindings path).map Prod.fst = path.map (·.name) ∧ ((bindings path).map Prod.snd).Nodup ∧
    ∀ pair ∈ bindings path, isReserved pair.2 = false ∧ pair.2 ∉ generatedNames ∧
      (isIdentifier pair.2 = true ↔ PlainHead pair.1) := by
  have sound := bindings_bound path
  refine ⟨sound.names_eq,sound.distinct,?_⟩
  intro pair member
  obtain ⟨unreserved,ungenerated⟩ := sound.free member
  exact ⟨(isReserved_eq_false pair.2).mpr unreserved,ungenerated,sound.isIdentifier_iff member⟩

def pathText (name : String) : Argument := ⟨name,.path,true,some (.ofType "string"),none⟩

theorem bindings_usable_names :
    bindings (["pet-id","pet_id","2fa","class","query",""].map pathText) =
      [("pet-id","pet_id"),("pet_id","pet_id_"),("2fa","_2fa"),("class","class_"),("query","query_"),
        ("","_")] ∧
      ∀ pair ∈ bindings (["pet-id","pet_id","2fa","class","query",""].map pathText),
        Declarable pair.2 ∧ pair.2 ∉ generatedNames := by
  have bound : bindings (["pet-id","pet_id","2fa","class","query",""].map pathText) =
      [("pet-id","pet_id"),("pet_id","pet_id_"),("2fa","_2fa"),("class","class_"),("query","query_"),
        ("","_")] := by decide +kernel
  obtain ⟨_,_,each⟩ := bindings_usable (["pet-id","pet_id","2fa","class","query",""].map pathText)
  have plain : ∀ name ∈ ["pet-id","pet_id","2fa","class","query",""], PlainHead name := by decide +kernel
  refine ⟨bound,fun pair member => ?_⟩
  obtain ⟨unreserved,ungenerated,identifier⟩ := each pair member
  have named : pair.1 ∈ ["pet-id","pet_id","2fa","class","query",""] := by
    have among := List.mem_map_of_mem (f := Prod.fst) (bound ▸ member)
    exact among
  exact ⟨⟨identifier.mpr (plain pair.1 named),unreserved⟩,ungenerated⟩

/-- A digit outside ASCII at the head of a name is taken for no digit and is left there. -/
theorem foreign_digit_unusable : bindings [pathText "２fa"] = [("２fa","２fa")] ∧ isIdentifier "２fa" = false := by
  decide +kernel

end Usable

section Local

/-- The name is bound as it is, or with underscores where it is that of a runtime binding. -/
def Lengthened (name bound : String) : Prop :=
  bound = name ∨ name ∈ runtimeBindings ∧ ∃ count, bound = underscored name (count + 1)

theorem Lengthened.declarable_iff {name bound : String} (longer : Lengthened name bound) :
    Declarable bound ↔ Declarable name := by
  obtain rfl | ⟨runtime,count,rfl⟩ := longer
  · rfl
  · have named := runtimeBindings_declarable name runtime
    have filled : ∀ name ∈ runtimeBindings, name ≠ "" := by decide
    refine iff_of_true ⟨?_,?_⟩ named
    · rw [isIdentifier_underscored (filled name runtime)]
      exact named.1
    · rw [isReserved_eq_false]
      exact underscored_succ_not_mem name reserved_bare count

theorem localNames_lengthened (imports : List String) :
    List.Forall₂ Lengthened imports (localNames imports) := by
  have run (rest : List String) : ∀ done locals, List.Forall₂ Lengthened done locals →
      List.Forall₂ Lengthened (done ++ rest) (rest.foldl (fun locals name => locals ++
        [if runtimeBindings.contains name then
          freshName (runtimeBindings ++ imports ++ locals) (name ++ "_") else name]) locals) := by
    induction rest with
    | nil => intro done locals longer; simpa using longer
    | cons name rest ih =>
      intro done locals longer
      have next : Lengthened name (if runtimeBindings.contains name then
          freshName (runtimeBindings ++ imports ++ locals) (name ++ "_") else name) := by
        split
        · rename_i runtime
          obtain ⟨count,same,_⟩ := freshName_found (runtimeBindings ++ imports ++ locals) (name ++ "_")
          have one : name ++ "_" = underscored name 1 := rfl
          rw [same,one,underscored_underscored,Nat.add_comm]
          exact .inr ⟨by simpa using runtime,count,rfl⟩
        · exact .inl rfl
      have grown := ih (done ++ [name]) _ (List.rel_append longer (.cons next .nil))
      simpa using grown
  exact run imports [] [] .nil

theorem forall₂_forall_iff {α β : Type} {R : α → β → Prop} {P : α → Prop} {Q : β → Prop}
    {first : List α} {second : List β} (related : List.Forall₂ R first second)
    (each : ∀ a b, R a b → (Q b ↔ P a)) : (∀ b ∈ second, Q b) ↔ ∀ a ∈ first, P a := by
  induction related with
  | nil => simp
  | cons head _ ih => rw [List.forall_mem_cons,List.forall_mem_cons,each _ _ head,ih]

/-- The local names of definitions can be declared exactly where the definitions' own ones can. -/
theorem localNames_declarable_iff (imports : List String) :
    (∀ name ∈ localNames imports, Declarable name) ↔ ∀ name ∈ imports, Declarable name :=
  forall₂_forall_iff (localNames_lengthened imports) fun _ _ longer => longer.declarable_iff

end Local

end FlowClient
