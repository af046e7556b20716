import FlowClient.Proofs.Declarations
import FlowClient.Proofs.Literals

/-! Types tell themselves apart by their texts. A printed type is read off its text up to where it ends, whatever
characters are in enumerated texts and property names, so types of schemas that are printed alike are equal. -/

namespace FlowClient

/-- The words that stand for types of their own, so a definition of the name would not be seen. -/
def builtinTypes : List String := ["any", "string", "number", "boolean", "Object"]

def FlowType.ofWord : String → FlowType
  | "any" => any
  | "string" => string
  | "number" => number
  | "boolean" => boolean
  | "Object" => openObject
  | name => named name

/-- The names in the type are identifiers, and none is a built-in type's word. -/
def FlowType.Legible (type : FlowType) : Prop :=
  ∀ name ∈ type.names, isIdentifier name = true ∧ name ∉ builtinTypes

/-- A type as schemas are translated to: a word, texts, an array or an exact object. -/
inductive FlowType.Translated : FlowType → Prop
  | word (w : String) (identifier : isIdentifier w = true) : Translated (ofWord w)
  | union (text : String) (texts : List String) : Translated (.union ((text :: texts).map .literal))
  | array (element : FlowType) (inner : element.Translated) : Translated (.array element)
  | exact (properties : List (Property FlowType)) (inner : ∀ p ∈ properties, p.value.Translated) :
    Translated (.exact properties)

def marked (optional : Bool) (rest : List Char) : List Char :=
  (if optional then ['?'] else []) ++ ':' :: ' ' :: rest

section Text

variable (depth : Nat) (rest : List Char)

theorem printAt_ofWord (w : String) : (FlowType.ofWord w).printAt depth = w := by
  unfold FlowType.ofWord
  split <;> rfl

theorem toList_array_append (element : FlowType) : ((FlowType.array element).printAt depth).toList ++ rest =
    "Array".toList ++ '<' :: ((element.printAt depth).toList ++ '>' :: rest) := by
  simp [FlowType.printAt]

theorem toList_union_append (text : String) (texts : List String) :
    ((FlowType.union ((text :: texts).map .literal)).printAt depth).toList ++ rest = (quote text).toList ++
      ((texts.flatMap fun text => ' ' :: '|' :: ' ' :: (quote text).toList) ++ rest) := by
  have members : ∀ texts : List String,
      FlowType.printAll depth (texts.map .literal) = texts.map quote := by
    intro texts
    induction texts with
    | nil => rfl
    | cons text texts ih => rw [List.map_cons,FlowType.printAll,FlowType.printAt,ih,List.map_cons]
  rw [FlowType.printAt,members]
  induction texts generalizing text with
  | nil => simp [joined]
  | cons next texts ih =>
    have later := ih next
    simp only [joined,List.map_cons,String.intercalate_cons_cons,String.toList_append,List.append_assoc] at later ⊢
    rw [later]
    simp

theorem toList_empty_append :
    ((FlowType.exact []).printAt depth).toList ++ rest = '{' :: '|' :: '|' :: '}' :: rest := by
  simp [FlowType.printAt]

/-- The line that ends an exact object, and what comes after it. -/
def closing : List Char := List.replicate (2 * depth) ' ' ++ '|' :: '}' :: rest

theorem toList_exact_append (p : Property FlowType) (properties : List (Property FlowType)) :
    ((FlowType.exact (p :: properties)).printAt depth).toList ++ rest = '{' :: '|' :: '\n' ::
      ((String.join (FlowType.printProperties depth (p :: properties))).toList ++ closing depth rest) := by
  simp [FlowType.printAt,closing,indentation]

theorem toList_property_append (p : Property FlowType) (properties : List (Property FlowType)) :
    (String.join (FlowType.printProperties depth (p :: properties))).toList ++ rest =
      List.replicate (2 * depth) ' ' ++ ' ' :: ' ' :: ((propertyKey p.name).toList ++
        marked p.optional ((p.value.printAt (depth + 1)).toList ++
          ',' :: '\n' :: ((String.join (FlowType.printProperties depth properties)).toList ++ rest))) := by
  obtain ⟨name,value,optional⟩ := p
  have deeper : List.replicate (2 * (depth + 1)) ' ' = List.replicate (2 * depth) ' ' ++ [' ',' '] := by
    rw [Nat.mul_add,List.replicate_add]
    rfl
  cases optional <;> simp [FlowType.printProperties,indentation,deeper,marked]

end Text

/-- What comes after a printed type: nothing, or what ends the array or the property that it stands in. -/
def Closed (rest : List Char) : Prop := ∀ c ∈ rest.head?, c = '>' ∨ c = ','

theorem Closed.ends {rest : List Char} (closed : Closed rest) : Ends rest := by
  intro c first
  rcases closed c first with rfl | rfl <;> decide

theorem closed_angle (rest : List Char) : Closed ('>' :: rest) := by simp [Closed]

theorem closed_comma (rest : List Char) : Closed (',' :: rest) := by simp [Closed]

theorem ends_angle (rest : List Char) : Ends ('<' :: rest) := by
  rintro c ⟨⟩
  decide

theorem Closed.not_cons {c : Char} {rest : List Char} (closed : Closed (c :: rest)) (other : c ∉ ['>',',']) :
    False := by
  apply other
  simpa using closed c rfl

section Cancel

variable {depth : Nat} {rest after : List Char}

theorem identifier_not_cons {name : String} (identifier : isIdentifier name = true) {c : Char}
    (other : isIdentifierStart c = false) : name.toList ++ rest ≠ c :: after := by
  intro same
  obtain ⟨⟨d,word,chars,start⟩,_⟩ := isIdentifier_chars identifier
  rw [chars,List.cons_append] at same
  rw [(List.cons.inj same).1,other] at start
  cases start

theorem identifier_cancel {name other : String} (identifier : isIdentifier name = true)
    (otherIdentifier : isIdentifier other = true) (ends : Ends rest) (endsAfter : Ends after)
    (same : name.toList ++ rest = other.toList ++ after) : name = other ∧ rest = after := by
  obtain ⟨chars,rests⟩ := word_cancel (isIdentifier_chars identifier).2 (isIdentifier_chars otherIdentifier).2
    ends endsAfter same
  exact ⟨String.toList_inj.mp chars,rests⟩

/-- A property name tells itself and where it ends, in quotes or not. -/
theorem propertyKey_cancel {name other : String} (ends : Ends rest) (endsAfter : Ends after)
    (same : (propertyKey name).toList ++ rest = (propertyKey other).toList ++ after) :
    name = other ∧ rest = after := by
  unfold propertyKey at same
  split at same <;> split at same
  · rename_i bare otherBare
    exact identifier_cancel bare otherBare ends endsAfter same
  · rename_i bare quoted
    rw [toList_quote_append] at same
    exact absurd same (identifier_not_cons bare (by decide))
  · rename_i quoted bare
    rw [toList_quote_append] at same
    exact absurd same.symm (identifier_not_cons bare (by decide))
  · exact quote_cancel same

/-- The texts of a union are as many as there are bars between them. -/
theorem texts_cancel {texts others : List String} (closed : Closed rest) (closedAfter : Closed after)
    (same : (texts.flatMap fun text => ' ' :: '|' :: ' ' :: (quote text).toList) ++ rest =
      (others.flatMap fun text => ' ' :: '|' :: ' ' :: (quote text).toList) ++ after) :
    texts = others ∧ rest = after := by
  induction texts generalizing others with
  | nil =>
    cases others with
    | nil => exact ⟨rfl,same⟩
    | cons other others =>
      simp only [List.flatMap_nil,List.nil_append] at same
      rw [same] at closed
      exact (closed.not_cons (by decide)).elim
  | cons text texts ih =>
    cases others with
    | nil =>
      simp only [List.flatMap_nil,List.nil_append] at same
      rw [← same] at closedAfter
      exact (closedAfter.not_cons (by decide)).elim
    | cons other others =>
      simp only [List.flatMap_cons,List.cons_append,List.append_assoc,List.cons.injEq,true_and] at same
      obtain ⟨rfl,later⟩ := quote_cancel same
      obtain ⟨rfl,rests⟩ := ih later
      exact ⟨rfl,rests⟩

theorem marked_ends (optional : Bool) : Ends (marked optional rest) := by
  cases optional <;> simp [marked,Ends] <;> decide

theorem marked_cancel {optional other : Bool} (same : marked optional rest = marked other after) :
    optional = other ∧ rest = after := by
  cases optional <;> cases other <;> simp [marked] at same
  · exact ⟨rfl,same⟩
  · exact ⟨rfl,same⟩

def Tells (depth : Nat) (type : FlowType) : Prop := ∀ {other : FlowType}, other.Translated →
  ∀ {rest after : List Char}, Closed rest → Closed after →
    (type.printAt depth).toList ++ rest = (other.printAt depth).toList ++ after → type = other ∧ rest = after

theorem properties_cancel {properties others : List (Property FlowType)}
    (tells : ∀ p ∈ properties, Tells (depth + 1) p.value) (inner : ∀ p ∈ others, p.value.Translated)
    (same : (String.join (FlowType.printProperties depth properties)).toList ++ closing depth rest =
      (String.join (FlowType.printProperties depth others)).toList ++ closing depth after) :
    properties = others ∧ rest = after := by
  induction properties generalizing others with
  | nil =>
    cases others with
    | nil => simpa [FlowType.printProperties,closing] using same
    | cons q others =>
      rw [toList_property_append] at same
      simp [FlowType.printProperties,closing] at same
  | cons p properties ih =>
    cases others with
    | nil =>
      rw [toList_property_append] at same
      simp [FlowType.printProperties,closing] at same
    | cons q others =>
      obtain ⟨tell,tells⟩ := List.forall_mem_cons.mp tells
      obtain ⟨translated,inner⟩ := List.forall_mem_cons.mp inner
      rw [toList_property_append,toList_property_append,List.append_cancel_left_eq,List.cons_inj_right,
        List.cons_inj_right] at same
      obtain ⟨names,later⟩ := propertyKey_cancel (marked_ends _) (marked_ends _) same
      obtain ⟨marks,later⟩ := marked_cancel later
      obtain ⟨values,later⟩ := tell translated (closed_comma _) (closed_comma _) later
      rw [List.cons_inj_right,List.cons_inj_right] at later
      obtain ⟨rfl,rests⟩ := ih tells inner later
      refine ⟨?_,rests⟩
      cases p
      cases q
      cases names
      cases marks
      cases values
      rfl

end Cancel

namespace FlowType.Translated

/-! What a type is shows at the start of its text. -/

section Start

variable {type : FlowType} (translated : type.Translated) {depth : Nat} {rest after : List Char}

include translated

theorem of_quote (same : (type.printAt depth).toList ++ rest = '\'' :: after) :
    ∃ text texts, type = .union ((text :: texts).map .literal) := by
  cases translated with
  | word w identifier =>
    rw [printAt_ofWord] at same
    exact absurd same (identifier_not_cons identifier (by decide))
  | union text texts => exact ⟨text,texts,rfl⟩
  | array element inner => simp [toList_array_append] at same
  | exact properties inner => cases properties <;> simp [toList_empty_append,toList_exact_append] at same

theorem of_brace (same : (type.printAt depth).toList ++ rest = '{' :: after) :
    ∃ properties, type = .exact properties ∧ ∀ p ∈ properties, p.value.Translated := by
  cases translated with
  | word w identifier =>
    rw [printAt_ofWord] at same
    exact absurd same (identifier_not_cons identifier (by decide))
  | union text texts =>
    rw [toList_union_append,toList_quote_append] at same
    simp at same
  | array element inner => simp [toList_array_append] at same
  | exact properties inner => exact ⟨properties,rfl,inner⟩

theorem of_word (closed : Closed rest) {name : String} (identifier : isIdentifier name = true)
    (ends : Ends after) (same : (type.printAt depth).toList ++ rest = name.toList ++ after) :
    (type = ofWord name ∧ rest = after) ∨ ∃ element, type = .array element ∧ element.Translated ∧
      name = "Array" ∧ '<' :: ((element.printAt depth).toList ++ '>' :: rest) = after := by
  cases translated with
  | word w other =>
    rw [printAt_ofWord] at same
    obtain ⟨rfl,rests⟩ := identifier_cancel other identifier closed.ends ends same
    exact .inl ⟨rfl,rests⟩
  | union text texts =>
    rw [toList_union_append,toList_quote_append] at same
    exact absurd same.symm (identifier_not_cons identifier (by decide))
  | array element inner =>
    rw [toList_array_append] at same
    obtain ⟨rfl,rests⟩ := identifier_cancel (by decide) identifier (ends_angle _) ends same
    exact .inr ⟨element,rfl,inner,rfl,rests⟩
  | exact properties inner =>
    cases properties <;> simp only [toList_empty_append,toList_exact_append] at same <;>
      exact absurd same.symm (identifier_not_cons identifier (by decide))

end Start

/-- A type tells itself and where it ends, by induction on it. -/
theorem tells {type : FlowType} (translated : type.Translated) (depth : Nat) : Tells depth type := by
  induction translated generalizing depth with
  | word w identifier =>
    intro other translated rest after closed closedAfter same
    rw [printAt_ofWord] at same
    rcases translated.of_word closedAfter identifier closed.ends same.symm with
      ⟨rfl,rests⟩ | ⟨element,rfl,_,_,rests⟩
    · exact ⟨rfl,rests.symm⟩
    · rw [← rests] at closed
      exact (closed.not_cons (by decide)).elim
  | union text texts =>
    intro other translated rest after closed closedAfter same
    rw [toList_union_append] at same
    obtain ⟨next,others,rfl⟩ := translated.of_quote (same.symm.trans (toList_quote_append _ _))
    rw [toList_union_append] at same
    obtain ⟨rfl,later⟩ := quote_cancel same
    obtain ⟨rfl,rests⟩ := texts_cancel closed closedAfter later
    exact ⟨rfl,rests⟩
  | array element inner ih =>
    intro other translated rest after closed closedAfter same
    have identifier : isIdentifier "Array" = true := by decide
    rw [toList_array_append] at same
    rcases translated.of_word closedAfter identifier (ends_angle _) same.symm with
      ⟨_,rests⟩ | ⟨next,rfl,translated,_,rests⟩
    · rw [rests] at closedAfter
      exact (closedAfter.not_cons (by decide)).elim
    · rw [List.cons_inj_right] at rests
      obtain ⟨rfl,later⟩ := ih depth translated (closed_angle _) (closed_angle _) rests.symm
      exact ⟨rfl,(List.cons_inj_right _).mp later⟩
  | exact properties inner ih =>
    intro other translated rest after closed closedAfter same
    cases properties with
    | nil =>
      rw [toList_empty_append] at same
      obtain ⟨others,rfl,_⟩ := translated.of_brace same.symm
      cases others with
      | nil =>
        rw [toList_empty_append] at same
        simpa using same
      | cons q others =>
        rw [toList_exact_append] at same
        simp at same
    | cons p properties =>
      rw [toList_exact_append] at same
      obtain ⟨others,rfl,each⟩ := translated.of_brace same.symm
      cases others with
      | nil =>
        rw [toList_empty_append] at same
        simp at same
      | cons q others =>
        rw [toList_exact_append,List.cons_inj_right,List.cons_inj_right,List.cons_inj_right] at same
        obtain ⟨all,rests⟩ := properties_cancel (fun p member => ih p member (depth + 1)) each same
        exact ⟨congrArg FlowType.exact all,rests⟩

end FlowType.Translated

section Typed

variable {definitions : Table Schema}

theorem ofWord_named {name : String} (other : name ∉ builtinTypes) :
    FlowType.ofWord name = .named name := by
  simp only [builtinTypes,List.mem_cons,List.not_mem_nil,or_false,not_or] at other
  unfold FlowType.ofWord
  split <;> simp_all

theorem stringType_translated (values : List Json) : (stringType values).Translated := by
  unfold stringType
  cases values.filterMap Json.str? with
  | nil => exact .word "string" (by decide)
  | cons text texts => exact .union text texts

theorem exactType?_translated {inner : Schema → Option FlowType} {properties : Table Schema}
    {required : List String} {type : FlowType} (typed : exactType? inner properties required = some type)
    (legible : type.Legible)
    (each : ∀ t part, inner t = some part → part.Legible → part.Translated) : type.Translated := by
  obtain ⟨fields,found,rfl⟩ := Option.map_eq_some_iff.mp typed
  refine .exact fields fun p member => ?_
  obtain ⟨entry,_,made⟩ := exists_of_map_eq (mapM_eq_some found) member
  obtain ⟨part,here,rfl⟩ := Option.map_eq_some_iff.mp made
  refine each entry.2 part here fun name named => legible name ?_
  rw [FlowType.names,namesProperties_eq]
  exact List.mem_flatMap.mpr ⟨_,member,named⟩

theorem typeFrom?_translated {inner : Schema → Option FlowType} {s : Schema} {type : FlowType}
    (typed : s.typeFrom? definitions inner = some type) (legible : type.Legible)
    (each : ∀ t part, inner t = some part → part.Legible → part.Translated) : type.Translated := by
  cases kind : s.kind with
  | reference name =>
    simp only [Schema.typeFrom?,kind,Option.some.injEq] at typed
    subst typed
    obtain ⟨identifier,other⟩ := legible name List.mem_cons_self
    rw [← ofWord_named other]
    exact .word name identifier
  | composite parts =>
    simp only [Schema.typeFrom?,kind] at typed
    exact exactType?_translated typed legible each
  | object =>
    simp only [Schema.typeFrom?,kind] at typed
    split at typed
    · obtain rfl := Option.some.inj typed
      exact .word "Object" (by decide)
    · exact exactType?_translated typed legible each
  | array items =>
    simp only [Schema.typeFrom?,kind] at typed
    obtain ⟨element,found,rfl⟩ := Option.map_eq_some_iff.mp typed
    cases items with
    | none =>
      obtain rfl := Option.some.inj found
      exact .array _ (.word "any" (by decide))
    | some t => exact .array element (each t element found legible)
  | string values =>
    simp only [Schema.typeFrom?,kind,Option.some.injEq] at typed
    subst typed
    exact stringType_translated values
  | number =>
    simp only [Schema.typeFrom?,kind,Option.some.injEq] at typed
    subst typed
    exact .word "number" (by decide)
  | boolean =>
    simp only [Schema.typeFrom?,kind,Option.some.injEq] at typed
    subst typed
    exact .word "boolean" (by decide)
  | any =>
    simp only [Schema.typeFrom?,kind,Option.some.injEq] at typed
    subst typed
    exact .word "any" (by decide)

theorem typeWithin?_translated {levels : Nat} {s : Schema} {type : FlowType}
    (typed : typeWithin? definitions levels s = some type) (legible : type.Legible) : type.Translated := by
  induction levels generalizing s type with
  | zero => cases typed
  | succ levels ih =>
    rw [typeWithin?_succ] at typed
    exact typeFrom?_translated typed legible fun _ _ => ih

end Typed

/-- Types of schemas that are printed alike are equal, whatever tables the schemas are read over, where
their names are identifiers apart from the built-in types' words. -/
theorem print_injective {definitions others : Table Schema} {s t : Schema} {type other : FlowType}
    (typed : typeOf? definitions s = some type) (typedOther : typeOf? others t = some other)
    (legible : type.Legible) (legibleOther : other.Legible) (same : type.print = other.print) :
    type = other := by
  have chars : (type.printAt 0).toList ++ [] = (other.printAt 0).toList ++ [] := by
    rw [← FlowType.print,← FlowType.print,same]
  have closed : Closed [] := by simp [Closed]
  exact ((typeWithin?_translated typed legible).tells 0 (typeWithin?_translated typedOther legibleOther)
    closed closed chars).1

/-- Signs of the printed layout in a property's name and in enumerated texts. -/
def signsSchema : Schema where
  type := some "object"
  properties := [("a?: b", { type := some "string", enumValues := [.str "'", .str "|\x7d,\n", .str "\\' | '"] }),
    ("pets", { type := some "array", items := some { ref := some "#/definitions/Pet" } })]
  required := ["pets"]

/-- The same type, from a part of a composition. -/
def signsPart : Schema := { allOf := [{ ref := some "#/definitions/Signs" }] }

theorem print_injective_signs : ∃ type other, typeOf? [] signsSchema = some type ∧
    typeOf? [("Signs", signsSchema)] signsPart = some other ∧ type.Legible ∧ other.Legible ∧
    type.print = other.print ∧ type = other := by
  have text : (typeOf? [] signsSchema).map FlowType.print =
      (typeOf? [("Signs", signsSchema)] signsPart).map FlowType.print := by decide +kernel
  have names : (typeOf? [] signsSchema).map FlowType.names = some ["Pet"] := by decide +kernel
  have namesOther : (typeOf? [("Signs", signsSchema)] signsPart).map FlowType.names = some ["Pet"] := by
    decide +kernel
  obtain ⟨type,typed,named⟩ := Option.map_eq_some_iff.mp names
  obtain ⟨other,typedOther,namedOther⟩ := Option.map_eq_some_iff.mp namesOther
  have pet : ∀ name ∈ ["Pet"], isIdentifier name = true ∧ name ∉ builtinTypes := by decide
  have legible : type.Legible := by rwa [FlowType.Legible,named]
  have legibleOther : other.Legible := by rwa [FlowType.Legible,namedOther]
  have same : type.print = other.print := by
    rw [typed,typedOther] at text
    exact Option.some.inj text
  exact ⟨type,other,typed,typedOther,legible,legibleOther,same,
    print_injective typed typedOther legible legibleOther same⟩

end FlowClient
