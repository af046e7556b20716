import FlowClient.Proofs.Identifiers
import FlowClient.Proofs.Literals
import FlowClient.Proofs.Scope

/-! The printed URL as JavaScript reads it: tokens first, then sums and calls of them. Whatever characters
the host name and the path hold, each literal ends where it was printed to end. What is asked of the path is that
the names for its placeholders are identifiers. -/

namespace FlowClient

inductive Token
  | text (value : String)
  | template (parts : List TemplatePart)
  | name (word : String)
  | sign (c : Char)
deriving DecidableEq, Repr

/-- The tokens of an expression. All but literals, identifiers, blanks, commas, parentheses and plus
signs is refused. -/
def tokens (lexis : Lexis) : List Char → Option (List Token)
  | [] => some []
  | c :: rest =>
    if c = ' ' then tokens lexis rest
    else if ['+','(',')',','].contains c then (tokens lexis rest).map (.sign c :: ·)
    else if c = '\'' then
      match _read : readQuoted rest with
      | some (text, after) => (tokens lexis after).map (.text (String.ofList text) :: ·)
      | none => none
    else if c = '`' then
      match _read : readTemplate lexis rest with
      | some (parts, after) => (tokens lexis after).map (.template parts :: ·)
      | none => none
    else if lexis.starts c then
      (tokens lexis (rest.dropWhile lexis.continues)).map
        (.name (String.ofList (c :: rest.takeWhile lexis.continues)) :: ·)
    else none
termination_by cs => cs.length
decreasing_by
  · simp
  · simp
  · exact (readQuoted_shortens rest).longer _ _ _read
  · exact (readTemplate_shortens lexis rest).longer _ _ _read
  · exact Nat.lt_succ_of_le (List.length_dropWhile_le _ _)

/-- A call whose arguments are being read: what it is added to, its callee and the arguments so far. -/
structure OpenCall where
  sum : Option Expr
  callee : String
  args : List Expr

/-- The operand added to the sum before it, if there is one. -/
def added (sum : Option Expr) (e : Expr) : Expr := sum.elim e (.concat · e)

mutual

/-- The expression of tokens, of which an operand comes next, inside of the calls. -/
def readOperand (calls : List OpenCall) (sum : Option Expr) : List Token → Option Expr
  | .text value :: rest => readOperator calls (added sum (.str value)) rest
  | .template parts :: rest => readOperator calls (added sum (.template parts)) rest
  | .name callee :: .sign '(' :: .sign ')' :: rest => readOperator calls (added sum (.call callee [])) rest
  | .name callee :: .sign '(' :: rest => readOperand (⟨sum,callee,[]⟩ :: calls) none rest
  | .name name :: rest => readOperator calls (added sum (.ident name)) rest
  | _ => none

/-- The expression of tokens that go on after a sum. -/
def readOperator (calls : List OpenCall) (sum : Expr) : List Token → Option Expr
  | [] => if calls.isEmpty then some sum else none
  | .sign '+' :: rest => readOperand calls (some sum) rest
  | .sign ',' :: rest =>
    match calls with
    | [] => none
    | call :: calls => readOperand ({ call with args := call.args ++ [sum] } :: calls) none rest
  | .sign ')' :: rest =>
    match calls with
    | [] => none
    | call :: calls => readOperator calls (added call.sum (.call call.callee (call.args ++ [sum]))) rest
  | _ => none

end

def readExpr (lexis : Lexis) (text : String) : Option Expr :=
  (tokens lexis text.toList).bind (readOperand [] none)

def Expr.summands : Expr → List Expr
  | .concat left right => left.summands ++ right.summands
  | e => [e]

section Tokens

variable (lexis : Lexis)

theorem tokens_blank (rest : List Char) : tokens lexis (' ' :: rest) = tokens lexis rest := by
  rw [tokens,if_pos rfl]

theorem tokens_sign {c : Char} (sign : c ∈ ['+','(',')',',']) (rest : List Char) :
    tokens lexis (c :: rest) = (tokens lexis rest).map (.sign c :: ·) := by
  have apart : c ≠ ' ' := by
    rintro rfl
    exact absurd sign (by decide)
  rw [tokens,if_neg apart,if_pos (List.contains_iff_mem.mpr sign)]

theorem tokens_plus (rest : List Char) :
    tokens lexis (" + ".toList ++ rest) = (tokens lexis rest).map (.sign '+' :: ·) := by
  have opened : " + ".toList ++ rest = ' ' :: '+' :: ' ' :: rest := by simp
  rw [opened,tokens_blank,tokens_sign lexis (by decide),tokens_blank]

theorem tokens_quoted (rest : List Char) : tokens lexis ('\'' :: rest) =
    (readQuoted rest).bind fun read => (tokens lexis read.2).map (.text (String.ofList read.1) :: ·) := by
  rw [tokens,if_neg (by decide),if_neg (by decide),if_pos rfl]
  split
  all_goals
    rename_i read
    rw [read]
    rfl

theorem tokens_backtick (rest : List Char) : tokens lexis ('`' :: rest) =
    (readTemplate lexis rest).bind fun read => (tokens lexis read.2).map (.template read.1 :: ·) := by
  rw [tokens,if_neg (by decide),if_neg (by decide),if_neg (by decide),if_pos rfl]
  split
  all_goals
    rename_i read
    rw [read]
    rfl

theorem tokens_quote (text : String) (rest : List Char) :
    tokens lexis ((quote text).toList ++ rest) = (tokens lexis rest).map (.text text :: ·) := by
  rw [toList_quote_append,tokens_quoted,readQuoted_quote,Option.bind_some,String.ofList_toList]

theorem tokens_template {parts : List TemplatePart} (closed : ∀ part ∈ parts, part.Closed)
    (depth : Nat) (rest : List Char) :
    tokens lexis (((Expr.template parts).printAt depth).toList ++ rest) =
      if parts.all (·.spelled lexis) then (tokens lexis rest).map (.template (joinLiterals parts) :: ·)
      else none := by
  have printed : ((Expr.template parts).printAt depth).toList ++ rest =
      '`' :: ((String.join (parts.map TemplatePart.print)).toList ++ '`' :: rest) := by
    simp [Expr.printAt]
  rw [printed,tokens_backtick,readTemplate_parts lexis closed]
  split <;> rfl

theorem tokens_name {c : Char} {word rest : List Char} (start : c.isAlpha = true)
    (parts : ∀ d ∈ word, d.isAlphanum = true) (ends : ∀ d ∈ rest.head?, d = '(' ∨ d = ')') :
    tokens lexis (c :: (word ++ rest)) = (tokens lexis rest).map (.name (String.ofList (c :: word)) :: ·) := by
  have letter : c.isAlphanum = true := by rw [Char.isAlphanum,start,Bool.true_or]
  have starts : lexis.starts c = true := by
    rw [lexis.starts_ascii c (isAlphanum_ascii letter),start]
    rfl
  have continues : ∀ d ∈ word, lexis.continues d = true := by
    intro d member
    rw [lexis.continues_ascii d (isAlphanum_ascii (parts d member)),parts d member]
    rfl
  have stops : ∀ d ∈ rest.head?, lexis.continues d = false := by
    intro d first
    obtain rfl | rfl := ends d first
    · rw [lexis.continues_ascii _ (by decide)]
      rfl
    · rw [lexis.continues_ascii _ (by decide)]
      rfl
  have apart : [' ','+','(',')',',','\'','`'].all (!Char.isAlpha ·) = true := by decide
  have other : c ∉ [' ','+','(',')',',','\'','`'] := by
    intro member
    have never := List.all_eq_true.mp apart c member
    rw [start] at never
    cases never
  simp only [List.mem_cons,List.not_mem_nil,or_false,not_or] at other
  rw [tokens,takeWhile_word continues stops,dropWhile_word continues stops]
  simp [other,starts]

theorem tokens_query (depth : Nat) :
    tokens lexis ((Expr.call queryHelper [.ident "query"]).printAt depth).toList =
      some [.name queryHelper, .sign '(', .name "query", .sign ')'] := by
  have printed : ((Expr.call queryHelper [.ident "query"]).printAt depth).toList =
      'm' :: ("akeQuery".toList ++ '(' :: 'q' :: ("uery".toList ++ [')'])) := by
    simp [Expr.printAt,Expr.printAll,joined,queryHelper]
  rw [printed,tokens_name lexis (by decide) (List.all_eq_true.mp (by decide)) (by simp),
    tokens_sign lexis (by decide),
    tokens_name lexis (by decide) (List.all_eq_true.mp (by decide)) (by simp),
    tokens_sign lexis (by decide),tokens]
  rfl

end Tokens

section Pieces

variable {P : Char → Prop}

theorem segment_of_literal {inside : Bool} {text : List Char} (plain : ∀ c ∈ text, P c) {piece : String}
    (member : Segment.literal piece ∈ Segment.of inside text) : piece ≠ "" ∧ ∀ c ∈ piece.toList, P c := by
  unfold Segment.of at member
  split at member
  · cases member
  · rename_i filled
    split at member
    · simp at member
    · have same : piece = String.ofList text := by simpa using member
      subst same
      exact ⟨by simpa using filled,by simpa using plain⟩

/-- No text between braces is empty, and of each of its characters holds what holds of all in the path
but braces. -/
theorem segmentsFrom_literal {inside : Bool} {text cs : List Char} (held : ∀ c ∈ text, P c)
    (plain : ∀ c ∈ cs, c ≠ '{' → c ≠ '}' → P c) {piece : String}
    (member : Segment.literal piece ∈ segmentsFrom inside text cs) :
    piece ≠ "" ∧ ∀ c ∈ piece.toList, P c := by
  induction cs generalizing inside text with
  | nil => exact segment_of_literal (by simpa using held) member
  | cons c cs ih =>
    obtain ⟨here,others⟩ := List.forall_mem_cons.mp plain
    rw [segmentsFrom] at member
    split at member
    · rcases List.mem_append.mp member with closed | later
      · exact segment_of_literal (by simpa using held) closed
      · exact ih (by simp) others later
    · rename_i brace
      simp only [Bool.or_eq_true,decide_eq_true_eq,not_or] at brace
      exact ih (List.forall_mem_cons.mpr ⟨here brace.1 brace.2,held⟩) others member

end Pieces

theorem parameterIdentifier_parts (name : String) :
    ∀ c ∈ (parameterIdentifier name).toList, isIdentifierPart c = true := by
  have mended : ∀ c ∈ identifierChars name.toList, isIdentifierPart c = true := by
    have each : ∀ c ∈ name.toList.map fun c => if isIdentifierPart c then c else '_',
        isIdentifierPart c = true := List.forall_mem_map.mpr fun c _ => mended_part c
    rw [identifierChars]
    split
    · exact List.forall_mem_singleton.mpr rfl
    · rename_i c rest chars
      rw [chars] at each
      split
      · exact List.forall_mem_cons.mpr ⟨rfl,each⟩
      · exact each
  rw [parameterIdentifier]
  split
  · rw [String.toList_append,String.toList_ofList,List.forall_mem_append]
    exact ⟨mended,List.forall_mem_singleton.mpr rfl⟩
  · rwa [String.toList_ofList]

theorem isIdentifier_underscored_iff (name : String) (count : Nat) :
    isIdentifier (underscored (parameterIdentifier name) count) = true ↔ PlainHead name := by
  have free := parameterIdentifier_not_mem name count
  rw [List.mem_append,not_or,← isReserved_eq_false] at free
  rw [← parameterIdentifier_declarable_iff name count,Declarable,and_iff_left free.1]

theorem underscored_closed (name : String) (count : Nat) :
    (TemplatePart.variable (underscored (parameterIdentifier name) count)).Closed := by
  rw [TemplatePart.Closed,toList_underscored,List.mem_append,not_or]
  constructor
  · intro inside
    exact absurd (parameterIdentifier_parts name '}' inside) (by decide)
  · intro inside
    exact absurd (List.eq_of_mem_replicate inside) (by decide)

section Parts

variable (arguments : List Argument)

theorem placeholder_part (name : String) : ∃ count,
    (Segment.placeholder name).part (bindings arguments) =
      .variable (underscored (parameterIdentifier name) count) := by
  rw [Segment.part]
  cases found : (bindings arguments).lookup name with
  | none => exact ⟨0,by rw [Option.getD_none,underscored_zero]⟩
  | some bound =>
    obtain ⟨count,same⟩ := (bindings_bound arguments).mended _ (mem_of_lookup found)
    exact ⟨count,congrArg TemplatePart.variable same⟩

/-- The pieces of a path without carriage returns end where they are printed to end. -/
theorem pieces_closed {path : String} (returns : '\r' ∉ path.toList) :
    ∀ part ∈ (segments path).map (·.part (bindings arguments)), part.Closed := by
  refine List.forall_mem_map.mpr fun piece member => ?_
  cases piece with
  | literal text =>
    have plain : ∀ c ∈ path.toList, c ≠ '{' → c ≠ '}' → c ≠ '{' ∧ c ≠ '\r' :=
      fun c inside opens _ => ⟨opens,fun same => returns (same ▸ inside)⟩
    obtain ⟨filled,each⟩ := segmentsFrom_literal (P := fun c => c ≠ '{' ∧ c ≠ '\r') (by simp) plain member
    refine ⟨filled,fun opens => ?_,fun inside => (each _ inside).2 rfl⟩
    exact (each '{' (List.mem_of_head? opens)).1 rfl
  | placeholder name =>
    obtain ⟨count,same⟩ := placeholder_part arguments name
    rw [same]
    exact underscored_closed name count

theorem pieces_spelled_iff (pieces : List Segment) :
    (pieces.map (·.part (bindings arguments))).all (·.spelled ownLexis) = true ↔
      ∀ name, Segment.placeholder name ∈ pieces → PlainHead name := by
  rw [List.all_map,List.all_eq_true]
  have piece (name : String) :
      ((Segment.placeholder name).part (bindings arguments)).spelled ownLexis = true ↔ PlainHead name := by
    obtain ⟨count,same⟩ := placeholder_part arguments name
    rw [same,TemplatePart.spelled,ownLexis_spells,isIdentifier_underscored_iff]
  constructor
  · exact fun each name member => (piece name).mp (each _ member)
  · intro plain part member
    cases part with
    | literal text => rfl
    | placeholder name => exact (piece name).mpr (plain name member)

end Parts

section Url

variable (lexis : Lexis) {pieces : List Segment} {bound : List (String × String)}

theorem urlExpr_tokens (closed : ∀ part ∈ pieces.map (·.part bound), part.Closed) (hasQuery : Bool)
    (hostname : Option String) (depth : Nat) :
    tokens lexis ((urlExpr pieces bound hasQuery hostname).printAt depth).toList =
      if (pieces.map (·.part bound)).all (·.spelled lexis) then
        some ((hostname.map fun host => [.text host, .sign '+']).getD [] ++
          [.template (joinLiterals (pieces.map (·.part bound)))] ++
          if hasQuery then [.sign '+', .name queryHelper, .sign '(', .name "query", .sign ')'] else [])
      else none := by
  have path : tokens lexis ((urlExpr pieces bound hasQuery none).printAt depth).toList =
      if (pieces.map (·.part bound)).all (·.spelled lexis) then
        some (.template (joinLiterals (pieces.map (·.part bound))) ::
          if hasQuery then [.sign '+', .name queryHelper, .sign '(', .name "query", .sign ')'] else [])
      else none := by
    cases hasQuery with
    | false =>
      have alone := tokens_template lexis closed depth []
      rw [List.append_nil,tokens] at alone
      exact alone
    | true =>
      have printed : ((urlExpr pieces bound true none).printAt depth).toList =
          ((Expr.template (pieces.map (·.part bound))).printAt depth).toList ++ (" + ".toList ++
            ((Expr.call queryHelper [.ident "query"]).printAt depth).toList) := by
        simp only [urlExpr,if_true,Expr.printAt,String.toList_append,List.append_assoc]
      rw [printed,tokens_template lexis closed,tokens_plus,tokens_query]
      rfl
  cases hostname with
  | none => exact path
  | some host =>
    have printed : ((urlExpr pieces bound hasQuery (some host)).printAt depth).toList =
        (quote host).toList ++ (" + ".toList ++ ((urlExpr pieces bound hasQuery none).printAt depth).toList) := by
      simp only [urlExpr,Expr.printAt,String.toList_append,List.append_assoc]
    rw [printed,tokens_quote,tokens_plus,path]
    split <;> rfl

theorem urlExpr_read (closed : ∀ part ∈ pieces.map (·.part bound), part.Closed) (hasQuery : Bool)
    (hostname : Option String) (depth : Nat) :
    (readExpr lexis ((urlExpr pieces bound hasQuery hostname).printAt depth)).map Expr.summands =
      if (pieces.map (·.part bound)).all (·.spelled lexis) then
        some ((hostname.map Expr.str).toList ++ [.template (joinLiterals (pieces.map (·.part bound)))] ++
          if hasQuery then [.call queryHelper [.ident "query"]] else [])
      else none := by
  rw [readExpr,urlExpr_tokens lexis closed]
  split
  · cases hostname <;> cases hasQuery <;> rfl
  · rfl

end Url

/-- The printed URL of an accepted endpoint is read as the host name, if there is one, one template of
the path's pieces, and the call for the query, if there are query arguments, exactly where every name
interpolated is an identifier; else it is not read at all. By the check for bare names they all are exactly where
no foreign numeral leads a placeholder. -/
theorem printed_url_read (e : Endpoint) (definitions : Table Schema) (hostname : Option String)
    (r : RequestFunction) (accepted : e.request definitions hostname = .ok r)
    (returns : '\r' ∉ e.path.toList) (depth : Nat) :
    ∃ url parts, r.module.function.url? = some url ∧
      List.Forall₂ (Fills e.inputs.path r.module.function.params) (segments e.path) parts ∧
      (∀ lexis : Lexis, (readExpr lexis (url.printAt depth)).map Expr.summands =
        if parts.all (·.spelled lexis) then
          some ((hostname.map Expr.str).toList ++ [.template (joinLiterals parts)] ++
            if (e.argumentsIn .query).isEmpty then [] else [.call queryHelper [.ident "query"]])
        else none) ∧
      (parts.all (·.spelled ownLexis) = true ↔
        ∀ name, Segment.placeholder name ∈ segments e.path → PlainHead name) := by
  obtain ⟨types,made⟩ := request_assembled e definitions hostname r accepted
  refine ⟨_,_,made.url,made.filled,fun lexis => ?_,pieces_spelled_iff e.inputs.path _⟩
  rw [urlExpr_read lexis (pieces_closed e.inputs.path returns)]
  cases empty : (e.argumentsIn .query).isEmpty <;> simp [Endpoint.inputs,empty]

/-- Quotes, backslashes and dollar signs where one piece meets the next. -/
def signsEndpoint : Endpoint where
  method := .get
  path := "/`$\x7d$\\\x7ba-b\x7d$\x7ba-b\x7d'`\\"
  id := "signs"
  arguments := [⟨"a-b", .path, true, some (.ofType "string"), none⟩,
    ⟨"q", .query, false, some (.ofType "integer"), none⟩]
  responseSchema := none
  summary := none
  description := none

theorem printed_url_read_signs : ∃ r url parts,
    signsEndpoint.request [] (some "'\\\n") = .ok r ∧ r.module.function.url? = some url ∧
    List.Forall₂ (Fills signsEndpoint.inputs.path r.module.function.params)
      [.literal "/`$", .literal "$\\", .placeholder "a-b", .literal "$", .placeholder "a-b",
        .literal "'`\\"] parts ∧
    (readExpr ownLexis (url.printAt 2)).map Expr.summands =
      some [.str "'\\\n", .template (joinLiterals parts), .call queryHelper [.ident "query"]] := by
  obtain ⟨r,accepted⟩ := request_accepted signsEndpoint [] (some "'\\\n") (by decide) rfl
  obtain ⟨url,parts,found,filled,read,spelled⟩ :=
    printed_url_read signsEndpoint [] (some "'\\\n") r accepted (by decide) 2
  have pieces : segments signsEndpoint.path =
      [.literal "/`$", .literal "$\\", .placeholder "a-b", .literal "$", .placeholder "a-b",
        .literal "'`\\"] := by decide
  have plain : ∀ name, Segment.placeholder name ∈ segments signsEndpoint.path → PlainHead name := by
    intro name member
    have only : name = "a-b" := by simpa [pieces] using member
    rw [only]
    decide
  rw [pieces] at filled
  refine ⟨r,url,parts,accepted,found,filled,?_⟩
  rw [read ownLexis,if_pos (spelled.mpr plain)]
  rfl

def codesEndpoint : Endpoint where
  method := .get
  path := "/codes/\x7b２fa\x7d"
  id := "getCode"
  arguments := [pathText "２fa"]
  responseSchema := none
  summary := none
  description := none

/-- The digit is left in front of the interpolated name, where no identifier starts with it. -/
theorem foreign_digit_url_unread : ∃ r url,
    codesEndpoint.request [] none = .ok r ∧ r.module.function.url? = some url ∧
    url.printAt 2 = "`/codes/$\x7b２fa\x7d`" ∧ ownLexis.starts '２' = false ∧
    ∀ lexis : Lexis, lexis.starts '２' = false → readExpr lexis (url.printAt 2) = none := by
  obtain ⟨r,accepted⟩ := request_accepted codesEndpoint [] none (by decide +kernel) rfl
  obtain ⟨_,made⟩ := request_assembled codesEndpoint [] none r accepted
  have pieces : (segments codesEndpoint.path).map (·.part (bindings codesEndpoint.inputs.path)) =
      [.literal "/codes/", .variable "２fa"] := by decide +kernel
  refine ⟨r,_,accepted,made.url,?_,by decide +kernel,fun lexis other => ?_⟩
  · rw [urlExpr,pieces]
    decide +kernel
  · have returns : '\r' ∉ codesEndpoint.path.toList := by decide
    have closed := pieces_closed codesEndpoint.inputs.path returns
    have read := urlExpr_read lexis closed (!codesEndpoint.inputs.query.isEmpty) none 2
    have unspelled : [TemplatePart.literal "/codes/",.variable "２fa"].all (·.spelled lexis) = false := by
      simp [TemplatePart.spelled,Lexis.spells,other]
    rw [pieces,unspelled,if_neg Bool.false_ne_true] at read
    exact Option.map_eq_none_iff.mp read

end FlowClient
