import FlowClient.Url
import Mathlib.Data.List.Basic

/-! Paths in which braces stand around names only, the pieces that they are cut into, and the texts
that they give once the names are filled in. -/

namespace FlowClient

/-- Text that no brace interrupts. -/
def BraceFree (text : String) : Prop := ∀ c ∈ text.toList, c ≠ '{' ∧ c ≠ '}'

instance (text : String) : Decidable (BraceFree text) :=
  List.decidableBAll (fun c => c ≠ '{' ∧ c ≠ '}') text.toList

/-- A path as text, and names in braces with the text after each. -/
structure PathPattern where
  start : String
  rest : List (String × String)
  start_free : BraceFree start
  names_free : ∀ pair ∈ rest, BraceFree pair.1 ∧ pair.1 ≠ ""
  texts_free : ∀ pair ∈ rest, BraceFree pair.2

def PathPattern.text (p : PathPattern) : String :=
  p.start ++ String.join (p.rest.map fun pair => "\x7b" ++ pair.1 ++ "\x7d" ++ pair.2)

def joinTexts? {α : Type} (text? : α → Option String) (items : List α) : Option String :=
  (items.mapM text?).map String.join

def PathPattern.fill? (value? : String → Option String) (p : PathPattern) : Option String :=
  (joinTexts? (fun pair => (value? pair.1).map (· ++ pair.2)) p.rest).map (p.start ++ ·)

/-- The text of a piece once its name has a value. -/
def Segment.text? (value? : String → Option String) : Segment → Option String
  | .literal text => some text
  | .placeholder name => value? name

section Join

variable {α : Type} (text? : α → Option String)

@[simp] theorem joinTexts?_nil : joinTexts? text? [] = some "" := rfl

@[simp] theorem joinTexts?_cons (item : α) (items : List α) :
    joinTexts? text? (item :: items) =
      (text? item).bind fun first => (joinTexts? text? items).map (first ++ ·) := by
  unfold joinTexts?
  rw [List.mapM_cons]
  cases first : text? item <;> cases rest : items.mapM text? <;> simp

theorem joinTexts?_append (first second : List α) :
    joinTexts? text? (first ++ second) =
      (joinTexts? text? first).bind fun text => (joinTexts? text? second).map (text ++ ·) := by
  induction first with
  | nil => simp
  | cons item first ih =>
    rw [List.cons_append,joinTexts?_cons,ih,joinTexts?_cons]
    cases text? item <;> cases joinTexts? text? first <;> cases joinTexts? text? second <;>
      simp [String.append_assoc]

end Join

section Scan

theorem segmentsFrom_free (inside : Bool) (held free rest : List Char)
    (plain : ∀ c ∈ free, c ≠ '{' ∧ c ≠ '}') :
    segmentsFrom inside held (free ++ rest) = segmentsFrom inside (free.reverse ++ held) rest := by
  induction free generalizing held with
  | nil => rfl
  | cons c free ih =>
    obtain ⟨opens,closes⟩ := plain c (by simp)
    rw [List.cons_append,segmentsFrom,if_neg (by simp [opens,closes]),
      ih _ fun d member => plain d (by simp [member])]
    simp

theorem segmentsFrom_open (inside : Bool) (held rest : List Char) :
    segmentsFrom inside held ('{' :: rest) =
      Segment.of inside held.reverse ++ segmentsFrom true [] rest := by
  simp [segmentsFrom]

theorem segmentsFrom_close (inside : Bool) (held rest : List Char) :
    segmentsFrom inside held ('}' :: rest) =
      Segment.of inside held.reverse ++ segmentsFrom false [] rest := by
  simp [segmentsFrom]

theorem segmentsFrom_name (held rest : List Char) (name text : String)
    (named : BraceFree name ∧ name ≠ "") (plain : BraceFree text) :
    segmentsFrom false held ('{' :: name.toList ++ '}' :: text.toList ++ rest) =
      Segment.of false held.reverse ++ .placeholder name ::
        segmentsFrom false text.toList.reverse rest := by
  have filled : ¬ name.toList = [] := by simpa using named.2
  have whole : Segment.of true name.toList = [.placeholder name] := by
    simp [Segment.of,filled]
  rw [List.append_assoc,List.cons_append,segmentsFrom_open,
    segmentsFrom_free true [] name.toList _ named.1,List.append_nil]
  rw [List.cons_append,segmentsFrom_close,List.reverse_reverse,whole,
    segmentsFrom_free false [] text.toList _ plain,List.append_nil]
  rfl

theorem segmentsFrom_pairs (held : List Char) (pairs : List (String × String))
    (names : ∀ pair ∈ pairs, BraceFree pair.1 ∧ pair.1 ≠ "")
    (texts : ∀ pair ∈ pairs, BraceFree pair.2) :
    segmentsFrom false held
      (String.join (pairs.map fun pair => "\x7b" ++ pair.1 ++ "\x7d" ++ pair.2)).toList =
      Segment.of false held.reverse ++ pairs.flatMap fun pair =>
        .placeholder pair.1 :: Segment.of false pair.2.toList := by
  induction pairs generalizing held with
  | nil => simp [segmentsFrom]
  | cons pair pairs ih =>
    have later := ih pair.2.toList.reverse (fun p member => names p (by simp [member]))
      (fun p member => texts p (by simp [member]))
    have here := segmentsFrom_name held
      (String.join (pairs.map fun pair => "\x7b" ++ pair.1 ++ "\x7d" ++ pair.2)).toList pair.1 pair.2
      (names pair (by simp)) (texts pair (by simp))
    rw [later,List.reverse_reverse] at here
    simpa [String.join_cons,List.append_assoc] using here

end Scan

/-- The pieces of a pattern are its texts, without the empty ones, and its names. -/
theorem segments_text (p : PathPattern) :
    segments p.text = Segment.of false p.start.toList ++ p.rest.flatMap fun pair =>
      .placeholder pair.1 :: Segment.of false pair.2.toList := by
  have scanned := segmentsFrom_free false [] p.start.toList
    (String.join (p.rest.map fun pair => "\x7b" ++ pair.1 ++ "\x7d" ++ pair.2)).toList p.start_free
  rw [List.append_nil,segmentsFrom_pairs _ _ p.names_free p.texts_free,List.reverse_reverse] at scanned
  simpa [segments,PathPattern.text] using scanned

/-- An empty text is no piece, but filling gives the text again. -/
theorem joinTexts?_of (value? : String → Option String) (text : String) :
    joinTexts? (Segment.text? value?) (Segment.of false text.toList) = some text := by
  by_cases empty : text = ""
  · subst empty
    rfl
  · simp [Segment.of,empty,Segment.text?]

theorem joinTexts?_segments (value? : String → Option String) (p : PathPattern) :
    joinTexts? (Segment.text? value?) (segments p.text) = p.fill? value? := by
  rw [segments_text,joinTexts?_append,joinTexts?_of]
  unfold PathPattern.fill?
  have pairs (rest : List (String × String)) :
      joinTexts? (Segment.text? value?) (rest.flatMap fun pair =>
        .placeholder pair.1 :: Segment.of false pair.2.toList) =
      joinTexts? (fun pair => (value? pair.1).map (· ++ pair.2)) rest := by
    induction rest with
    | nil => rfl
    | cons pair rest ih =>
      rw [List.flatMap_cons,List.cons_append,joinTexts?_cons,joinTexts?_append,joinTexts?_of,ih,
        joinTexts?_cons]
      cases found : value? pair.1 <;>
        cases joinTexts? (fun pair => (value? pair.1).map (· ++ pair.2)) rest <;>
        simp [Segment.text?,found,String.append_assoc]
  rw [pairs]
  rfl

end FlowClient
