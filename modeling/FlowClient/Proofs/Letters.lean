import FlowClient.Text.Words

/-! Letters and digits in ASCII. Changing their case gives letters and digits again, so texts in ASCII are cased to
nothing else. -/

namespace FlowClient

def Ascii (text : String) : Prop := ∀ c ∈ text.toList, c.toNat < 128

def Alphanum (text : String) : Prop := ∀ c ∈ text.toList, c.isAlphanum = true

instance (text : String) : Decidable (Ascii text) :=
  decidable_of_iff (text.toList.all fun c => c.toNat < 128) (by simp [Ascii])

instance (text : String) : Decidable (Alphanum text) :=
  decidable_of_iff (text.toList.all Char.isAlphanum) List.all_eq_true

/-- A casing that leaves letters and digits only of an ASCII text. -/
def AlphanumCasing (casing : String → String) : Prop := ∀ text, Ascii text → Alphanum (casing text)

section Characters

variable {c : Char}

theorem isUpper_iff : c.isUpper = true ↔ 65 ≤ c.toNat ∧ c.toNat ≤ 90 := by
  have spelled : c.isUpper = decide ('A'.val ≤ c.val ∧ c.val ≤ 'Z'.val) := rfl
  simp [spelled,UInt32.le_iff_toNat_le]

theorem isLower_iff : c.isLower = true ↔ 97 ≤ c.toNat ∧ c.toNat ≤ 122 := by
  have spelled : c.isLower = (decide ('a'.val ≤ c.val) && decide (c.val ≤ 'z'.val)) := rfl
  simp [spelled,UInt32.le_iff_toNat_le]

theorem isAlphanum_iff : c.isAlphanum = true ↔
    (65 ≤ c.toNat ∧ c.toNat ≤ 90 ∨ 97 ≤ c.toNat ∧ c.toNat ≤ 122) ∨ 48 ≤ c.toNat ∧ c.toNat ≤ 57 := by
  have spelled : c.isAlphanum = (c.isUpper || c.isLower || c.isDigit) := rfl
  have digit : c.isDigit = true ↔ 48 ≤ c.toNat ∧ c.toNat ≤ 57 := by
    simp [Char.isDigit,UInt32.le_iff_toNat_le]
  rw [spelled,Bool.or_eq_true,Bool.or_eq_true,isUpper_iff,isLower_iff,digit]

/-- A small letter comes 32 code points after its capital. -/
theorem toNat_toLower (capital : c.isUpper = true) : c.toLower.toNat = c.toNat + 32 := by
  have range := isUpper_iff.mp capital
  have inside : 'A'.val ≤ c.val ∧ c.val ≤ 'Z'.val := by simpa [UInt32.le_iff_toNat_le] using range
  have moved : c.toLower = ⟨c.val + ('a'.val - 'A'.val),_⟩ := dif_pos inside
  rw [← Char.toNat_val,moved]
  simp only [UInt32.toNat_add,Char.toNat_val,Char.reduceVal,UInt32.reduceSub,UInt32.reduceToNat]
  omega

theorem toNat_toUpper (small : c.isLower = true) : c.toUpper.toNat = c.toNat - 32 := by
  have range := isLower_iff.mp small
  have inside : 'a'.val ≤ c.val ∧ c.val ≤ 'z'.val := by simpa [UInt32.le_iff_toNat_le] using range
  have moved : c.toUpper = ⟨c.val + ('A'.val - 'a'.val),_⟩ := dif_pos inside
  rw [← Char.toNat_val,moved]
  simp only [UInt32.toNat_add,Char.toNat_val,Char.reduceVal,UInt32.reduceSub,UInt32.reduceToNat]
  omega

theorem toLower_eq_self (other : ¬ c.isUpper = true) : c.toLower = c := by
  apply dif_neg
  simpa [isUpper_iff,UInt32.le_iff_toNat_le] using other

theorem toUpper_eq_self (other : ¬ c.isLower = true) : c.toUpper = c := by
  apply dif_neg
  simpa [isLower_iff,UInt32.le_iff_toNat_le] using other

theorem isUpper_toLower : c.toLower.isUpper = false := by
  rw [← Bool.not_eq_true]
  by_cases capital : c.isUpper = true
  · rw [isUpper_iff,toNat_toLower capital]
    have range := isUpper_iff.mp capital
    omega
  · rwa [toLower_eq_self capital]

theorem isAlphanum_ascii (own : c.isAlphanum = true) : c.toNat < 128 := by
  rw [isAlphanum_iff] at own
  omega

theorem isAlphanumeric_ascii (ascii : c.toNat < 128) : Text.isAlphanumeric c = c.isAlphanum := by
  rw [Text.isAlphanumeric,Text.isLetter,Text.isNumeral,if_pos ascii,if_pos ascii,Char.isAlphanum]

theorem isAlphanum_toLower (own : c.isAlphanum = true) : c.toLower.isAlphanum = true := by
  by_cases capital : c.isUpper = true
  · rw [isAlphanum_iff,toNat_toLower capital]
    have range := isUpper_iff.mp capital
    omega
  · rwa [toLower_eq_self capital]

theorem isAlphanum_toUpper (own : c.isAlphanum = true) : c.toUpper.isAlphanum = true := by
  by_cases small : c.isLower = true
  · rw [isAlphanum_iff,toNat_toUpper small]
    have range := isLower_iff.mp small
    omega
  · rwa [toUpper_eq_self small]

/-- Capitals outside ASCII stay as they are, and ASCII has a small letter for each of its own. -/
theorem isAlphanumeric_toLower (own : Text.isAlphanumeric c = true) :
    Text.isAlphanumeric c.toLower = true := by
  by_cases capital : c.isUpper = true
  · have letter : c.isAlphanum = true := isAlphanum_iff.mpr (.inl (.inl (isUpper_iff.mp capital)))
    have small := isAlphanum_toLower letter
    rwa [isAlphanumeric_ascii (isAlphanum_ascii small)]
  · rwa [toLower_eq_self capital]

end Characters

section Texts

theorem ascii_append {first second : String} : Ascii (first ++ second) ↔ Ascii first ∧ Ascii second := by
  rw [Ascii,String.toList_append,List.forall_mem_append]
  rfl

theorem Alphanum.append {first second : String} (left : Alphanum first) (right : Alphanum second) :
    Alphanum (first ++ second) := by
  intro c member
  rw [String.toList_append] at member
  exact (List.mem_append.mp member).elim (left c) (right c)

theorem alphanum_join {texts : List String} (each : ∀ text ∈ texts, Alphanum text) : Alphanum (String.join texts) := by
  induction texts with
  | nil => exact fun c none => (by simp at none)
  | cons text texts ih =>
    rw [List.forall_mem_cons] at each
    rw [String.join_cons]
    exact each.1.append (ih each.2)

end Texts

section Casing

open Text

theorem lowerTail_alphanum {word : List Char} (own : ∀ c ∈ word, c.isAlphanum = true) :
    ∀ c ∈ lowerTail word, c.isAlphanum = true := by
  fun_induction lowerTail word with
  | case1 => exact own
  | case2 => exact absurd (own 'Σ' List.mem_cons_self) (by decide)
  | case3 c rest other ih =>
    rw [List.forall_mem_cons] at own
    rw [List.forall_mem_append,lowerChar,if_pos (isAlphanum_ascii own.1),List.forall_mem_singleton]
    exact ⟨isAlphanum_toLower own.1,ih own.2⟩

theorem capitalize_alphanum {word : List Char} (own : ∀ c ∈ word, c.isAlphanum = true) :
    ∀ c ∈ capitalize word, c.isAlphanum = true := by
  cases word with
  | nil => exact own
  | cons c rest =>
    rw [List.forall_mem_cons] at own
    rw [capitalize,List.forall_mem_append,upperChar,if_pos (isAlphanum_ascii own.1),List.forall_mem_singleton]
    exact ⟨isAlphanum_toUpper own.1,lowerTail_alphanum own.2⟩

theorem wordsFrom_flatten (seen : WordCase) (word rest : List Char) :
    (wordsFrom seen word rest).flatten = word.reverse ++ rest.filter isAlphanumeric := by
  fun_induction wordsFrom seen word rest <;> simp_all

theorem pascalCase_alphanum : AlphanumCasing pascalCase := by
  intro text ascii
  rw [Alphanum,pascalCase,String.toList_ofList,List.forall_mem_flatMap]
  intro word member
  apply capitalize_alphanum
  intro c inside
  have kept : c ∈ text.toList.filter isAlphanumeric := by
    have among := List.mem_flatten.mpr ⟨word,member,inside⟩
    rwa [words,wordsFrom_flatten] at among
  obtain ⟨own,alphanumeric⟩ := List.mem_filter.mp kept
  rwa [isAlphanumeric_ascii (ascii c own)] at alphanumeric

end Casing

end FlowClient
