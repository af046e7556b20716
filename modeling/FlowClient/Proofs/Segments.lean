import FlowClient.Proofs.Distinct
import FlowClient.Proofs.PathPattern

/-! Pieces of any path, braces nested, adjacent, empty or unbalanced. Nothing but braces is lost, and the last brace
before a piece tells what it is. -/

namespace FlowClient

def isBrace (c : Char) : Bool := c = '{' || c = '}'

/-- The characters of a path without its braces. -/
def unbraced (path : List Char) : List Char := path.filter fun c => !isBrace c

namespace Segment

def content : Segment → String
  | literal text => text
  | placeholder name => name

def written : Segment → String
  | literal text => text
  | placeholder name => "\x7b" ++ name ++ "\x7d"

end Segment

def contents (pieces : List Segment) : List Char := pieces.flatMap fun s => s.content.toList

/-- In what comes after `pre` the piece stands behind the pieces in `first` and before those in `rest`, as far as to
the next brace on both sides. It is a placeholder where the last brace before it opens. -/
def StandsAfter (pre path : List Char) (first : List Segment) (s : Segment) (rest : List Segment) : Prop :=
  ∃ before after, path = before ++ s.content.toList ++ after ∧
    unbraced before = contents first ∧ unbraced after = contents rest ∧
    (∀ c ∈ (pre ++ before).getLast?, isBrace c = true) ∧ (∀ c ∈ after.head?, isBrace c = true) ∧
    (s.placeholder?.isSome ↔ ((pre ++ before).filter isBrace).getLast? = some '{')

section Pieces

theorem unbraced_free {cs : List Char} (free : ∀ c ∈ cs, isBrace c = false) : unbraced cs = cs :=
  List.filter_eq_self.mpr fun c member => by rw [free c member,Bool.not_false]

theorem unbraced_brace {c : Char} (brace : isBrace c = true) (cs : List Char) :
    unbraced (c :: cs) = unbraced cs :=
  List.filter_cons_of_neg (by simp [brace])

theorem unbraced_other {c : Char} (other : isBrace c = false) (cs : List Char) :
    unbraced (c :: cs) = c :: unbraced cs :=
  List.filter_cons_of_pos (by simp [other])

theorem of_filled (inside : Bool) {text : List Char} (filled : text ≠ []) : ∃ s,
    Segment.of inside text = [s] ∧ s.content = String.ofList text ∧ s.placeholder?.isSome = inside := by
  have some : text.isEmpty = false := by simpa using filled
  cases inside with
  | true => exact ⟨.placeholder (String.ofList text),by simp [Segment.of,some],rfl,rfl⟩
  | false => exact ⟨.literal (String.ofList text),by simp [Segment.of,some],rfl,rfl⟩

theorem of_contents (inside : Bool) (text : List Char) : contents (Segment.of inside text) = text := by
  by_cases filled : text = []
  · subst filled
    rfl
  · obtain ⟨s,single,content,_⟩ := of_filled inside filled
    simp [single,contents,content]

theorem contents_append (first second : List Segment) :
    contents (first ++ second) = contents first ++ contents second := List.flatMap_append

theorem segmentsFrom_brace (inside : Bool) (held rest : List Char) {c : Char} (brace : isBrace c = true) :
    segmentsFrom inside held (c :: rest) =
      Segment.of inside held.reverse ++ segmentsFrom (c = '{') [] rest := by
  rw [segmentsFrom,if_pos]
  simpa [isBrace] using brace

theorem segmentsFrom_other (inside : Bool) (held rest : List Char) {c : Char} (other : isBrace c = false) :
    segmentsFrom inside held (c :: rest) = segmentsFrom inside (c :: held) rest := by
  rw [segmentsFrom,if_neg]
  simpa [isBrace] using other

theorem segmentsFrom_contents (inside : Bool) (held rest : List Char) :
    contents (segmentsFrom inside held rest) = held.reverse ++ unbraced rest := by
  induction rest generalizing inside held with
  | nil =>
    rw [segmentsFrom,of_contents]
    exact (List.append_nil _).symm
  | cons c rest ih =>
    cases brace : isBrace c with
    | true =>
      rw [segmentsFrom_brace inside held rest brace,contents_append,of_contents,ih,unbraced_brace brace]
      rfl
    | false =>
      rw [segmentsFrom_other inside held rest brace,ih,unbraced_other brace,List.reverse_cons,
        List.append_assoc]
      rfl

/-- The pieces are filled and hold no brace where the open run holds none. -/
theorem segmentsFrom_filled (inside : Bool) (held rest : List Char)
    (free : ∀ c ∈ held, isBrace c = false) :
    ∀ s ∈ segmentsFrom inside held rest, s.content ≠ "" ∧ ∀ c ∈ s.content.toList, isBrace c = false := by
  have run (inside : Bool) (text : List Char) (free : ∀ c ∈ text, isBrace c = false) :
      ∀ s ∈ Segment.of inside text, s.content ≠ "" ∧ ∀ c ∈ s.content.toList, isBrace c = false := by
    by_cases filled : text = []
    · subst filled
      exact List.forall_mem_nil _
    · obtain ⟨s,single,content,_⟩ := of_filled inside filled
      rw [single,List.forall_mem_singleton,content,String.toList_ofList]
      exact ⟨by simpa using filled,free⟩
  induction rest generalizing inside held with
  | nil => exact run inside held.reverse (by simpa using free)
  | cons c rest ih =>
    cases brace : isBrace c with
    | true =>
      rw [segmentsFrom_brace inside held rest brace,List.forall_mem_append]
      exact ⟨run inside held.reverse (by simpa using free),ih _ [] (List.forall_mem_nil _)⟩
    | false =>
      rw [segmentsFrom_other inside held rest brace]
      exact ih inside (c :: held) (List.forall_mem_cons.mpr ⟨brace,free⟩)

section Stands

variable {pre text rest : List Char} {first later : List Segment} {s : Segment}

/-- The run up to the next brace or the end stands after a brace or the start. -/
theorem StandsAfter.run {inside : Bool} (mode : inside = true ↔ (pre.filter isBrace).getLast? = some '{')
    (edge : ∀ c ∈ pre.getLast?, isBrace c = true) (content : s.content = String.ofList text)
    (kind : s.placeholder?.isSome = inside) (next : ∀ c ∈ rest.head?, isBrace c = true)
    (rests : unbraced rest = contents later) : StandsAfter pre (text ++ rest) [] s later := by
  refine ⟨[],rest,by simp [content],rfl,rests,?_,next,?_⟩
  · rwa [List.append_nil]
  · rw [List.append_nil,kind,mode]

theorem StandsAfter.behind {c : Char} (brace : isBrace c = true) (free : ∀ d ∈ text, isBrace d = false)
    {front : List Segment} (fronts : contents front = text)
    (stands : StandsAfter (pre ++ (text ++ [c])) rest first s later) :
    StandsAfter pre (text ++ c :: rest) (front ++ first) s later := by
  obtain ⟨before,after,whole,early,late,left,right,kind⟩ := stands
  have path : pre ++ (text ++ [c]) ++ before = pre ++ (text ++ c :: before) := by simp
  rw [path] at left kind
  refine ⟨text ++ c :: before,after,by simp [whole],?_,late,left,right,kind⟩
  have whole : unbraced (text ++ c :: before) = unbraced text ++ unbraced (c :: before) := List.filter_append ..
  rw [whole,unbraced_free free,unbraced_brace brace,early,contents_append,fronts]

theorem segmentsFrom_stands {inside : Bool} (mode : inside = true ↔ (pre.filter isBrace).getLast? = some '{')
    (edge : ∀ c ∈ pre.getLast?, isBrace c = true) (held rest : List Char)
    (free : ∀ c ∈ held, isBrace c = false) (split : segmentsFrom inside held rest = first ++ s :: later) :
    StandsAfter pre (held.reverse ++ rest) first s later := by
  have bare : ∀ c ∈ held.reverse, isBrace c = false := by simpa using free
  induction rest generalizing pre inside held first with
  | nil =>
    rw [segmentsFrom] at split
    by_cases filled : held.reverse = []
    · rw [filled] at split
      exact absurd split (by simp [Segment.of])
    · obtain ⟨own,single,content,kind⟩ := of_filled inside filled
      rw [single,eq_comm,List.append_eq_singleton_iff] at split
      obtain ⟨rfl,same⟩ | ⟨_,none⟩ := split
      · obtain ⟨rfl,rfl⟩ := List.cons.inj same
        exact .run mode edge content kind (by simp) rfl
      · cases none
  | cons c rest ih =>
    cases brace : isBrace c with
    | false =>
      rw [segmentsFrom_other inside held rest brace] at split
      have free' : ∀ d ∈ c :: held, isBrace d = false := List.forall_mem_cons.mpr ⟨brace,free⟩
      have found := ih mode edge (c :: held) free' split fun d member => free' d (List.mem_reverse.mp member)
      simpa using found
    | true =>
      rw [segmentsFrom_brace inside held rest brace] at split
      have none : held.reverse.filter isBrace = [] := by simpa using bare
      have mode' : decide (c = '{') = true ↔
          ((pre ++ (held.reverse ++ [c])).filter isBrace).getLast? = some '{' := by
        simp [none,brace]
      have edge' : ∀ d ∈ (pre ++ (held.reverse ++ [c])).getLast?, isBrace d = true := by
        simp [brace]
      have behind {first : List Segment} (split : segmentsFrom (c = '{') [] rest = first ++ s :: later) :
          StandsAfter (pre ++ (held.reverse ++ [c])) rest first s later :=
        ih mode' edge' [] (List.forall_mem_nil _) split (List.forall_mem_nil _)
      by_cases filled : held.reverse = []
      · rw [filled] at split
        have skipped : StandsAfter pre (held.reverse ++ c :: rest) ([] ++ first) s later :=
          .behind brace bare filled.symm (behind split)
        exact skipped
      · obtain ⟨own,single,content,kind⟩ := of_filled inside filled
        rw [single,List.singleton_append] at split
        cases first with
        | nil =>
          obtain ⟨rfl,rfl⟩ := List.cons.inj split
          refine .run mode edge content kind (by simpa using brace) ?_
          rw [segmentsFrom_contents,unbraced_brace brace]
          rfl
        | cons other first =>
          obtain ⟨rfl,tail⟩ := List.cons.inj split
          have passed : StandsAfter pre (held.reverse ++ c :: rest) ([own] ++ first) s later :=
            .behind brace bare (by simp [contents,content]) (behind tail)
          exact passed

end Stands

end Pieces

section Placeholders

theorem filterMap_placeholder (pieces : List Segment) :
    (pieces.filterMap Segment.placeholder?).map Segment.placeholder =
      pieces.filter fun s => s.placeholder?.isSome := by
  induction pieces with
  | nil => rfl
  | cons s pieces ih =>
    cases s with
    | literal text => exact ih
    | placeholder name => exact congrArg (Segment.placeholder name :: ·) ih

theorem placeholders_pieces (pieces : List Segment) : (placeholders pieces).map Segment.placeholder =
    pieces.eraseDups.filter fun s => s.placeholder?.isSome := by
  have injective : Function.Injective Segment.placeholder := fun _ _ => Segment.placeholder.inj
  rw [placeholders,← eraseDups_map injective,filterMap_placeholder,eraseDups_filter]

/-- The names of the placeholders, each once, in the order in which they come first. -/
structure Names (pieces : List Segment) (names : List String) : Prop where
  distinct : names.Nodup
  members : ∀ name, name ∈ names ↔ .placeholder name ∈ pieces
  order : names.Pairwise fun a b => pieces.idxOf (.placeholder a) < pieces.idxOf (.placeholder b)

theorem placeholders_names (pieces : List Segment) : Names pieces (placeholders pieces) where
  distinct := nodup_eraseDups _
  members := by
    intro name
    rw [placeholders,List.mem_eraseDups,List.mem_filterMap]
    constructor
    · rintro ⟨s,member,named⟩
      cases s with
      | literal text => cases named
      | placeholder other => rwa [← Option.some.inj named]
    · exact fun member => ⟨_,member,rfl⟩
  order := by
    have order := (eraseDups_order pieces).filter fun s => s.placeholder?.isSome
    rwa [← placeholders_pieces,List.pairwise_map] at order

end Placeholders

theorem segments_written (p : PathPattern) : String.join ((segments p.text).map Segment.written) = p.text := by
  have plain (text : String) : String.join ((Segment.of false text.toList).map Segment.written) = text := by
    by_cases empty : text = ""
    · subst empty
      rfl
    · simp [Segment.of,empty,Segment.written]
  have rests (rest : List (String × String)) :
      String.join ((rest.flatMap fun pair => .placeholder pair.1 :: Segment.of false pair.2.toList).map
        Segment.written) =
      String.join (rest.map fun pair => "\x7b" ++ pair.1 ++ "\x7d" ++ pair.2) := by
    induction rest with
    | nil => rfl
    | cons pair rest ih =>
      rw [List.flatMap_cons,List.map_append,List.map_cons,String.join_append,ih,String.join_cons,plain,
        List.map_cons,String.join_cons]
      rfl
  rw [segments_text,List.map_append,String.join_append,plain,rests]
  rfl

/-- Scanning loses nothing but braces. The pieces of a path are its runs between braces, each as far as it goes, and
those whose last brace before them opens are placeholders. Paths in which braces stand around names only are written
again from their pieces, and the placeholders are listed by the places where they come first. -/
theorem segments_lossless :
    (∀ path, contents (segments path) = unbraced path.toList ∧
      (∀ s ∈ segments path, s.content ≠ "" ∧ BraceFree s.content) ∧
      ∀ first s rest, segments path = first ++ s :: rest → StandsAfter [] path.toList first s rest) ∧
    (∀ p : PathPattern, String.join ((segments p.text).map Segment.written) = p.text) ∧
    ∀ pieces, Names pieces (placeholders pieces) := by
  refine ⟨fun path => ⟨segmentsFrom_contents false [] path.toList,?_,?_⟩,segments_written,placeholders_names⟩
  · intro s member
    obtain ⟨filled,free⟩ := segmentsFrom_filled false [] path.toList (List.forall_mem_nil _) s member
    refine ⟨filled,fun c inside => ?_⟩
    have other := free c inside
    simpa [isBrace] using other
  · intro first s rest split
    exact segmentsFrom_stands (by simp) (by simp) [] path.toList (List.forall_mem_nil _) split

/-- A path whose braces are nested, empty and left over. -/
def tangledPath : String := "/a\x7bb\x7bc\x7dé\x7d\x7d\x7b\x7d\x7bc"

theorem segments_lossless_tangled :
    segments tangledPath = [.literal "/a",.placeholder "b",.placeholder "c",.literal "é",.placeholder "c"] ∧
      StandsAfter [] tangledPath.toList [.literal "/a",.placeholder "b",.placeholder "c"] (.literal "é")
        [.placeholder "c"] ∧
      Names (segments tangledPath) ["b","c"] := by
  have pieces : segments tangledPath =
      [.literal "/a",.placeholder "b",.placeholder "c",.literal "é",.placeholder "c"] := by decide
  have listed : placeholders (segments tangledPath) = ["b","c"] := by decide
  obtain ⟨scanned,_,names⟩ := segments_lossless
  obtain ⟨_,_,stands⟩ := scanned tangledPath
  refine ⟨pieces,stands [.literal "/a",.placeholder "b",.placeholder "c"] (.literal "é") [.placeholder "c"] pieces,?_⟩
  rw [← listed]
  exact names _

end FlowClient
