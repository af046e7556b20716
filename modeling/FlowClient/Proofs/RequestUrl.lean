import FlowClient.Proofs.PathPattern
import FlowClient.Proofs.Scope

/-! The text of the URL that a request function asks for, once it is called: the path of the endpoint
with the arguments of the call at the places of their names. -/

namespace FlowClient

def TemplatePart.text? (scope : List (String × String)) : TemplatePart → Option String
  | .literal text => some text
  | .variable name => scope.lookup name

/-- The text of an expression in a scope, where `queryText` is what the runtime writes for the query.
Unbound names have none, and neither have expressions that are no text. -/
def Expr.text? (scope : List (String × String)) (queryText : String) : Expr → Option String
  | .ident name => scope.lookup name
  | .str text => some text
  | .template parts => joinTexts? (TemplatePart.text? scope) parts
  | .concat left right =>
    (left.text? scope queryText).bind fun text => (right.text? scope queryText).map (text ++ ·)
  | .call callee [.ident name] =>
    if callee = queryHelper && name = "query" then (scope.lookup name).map fun _ => queryText
    else none
  | _ => none

/-- The scope of a call: the parameters with the arguments at their places. -/
def Function.scope (f : Function) (arguments : List String) : List (String × String) :=
  (f.params.map (·.name)).zip arguments

/-- What a call passes for the required path argument of the name. -/
def Endpoint.pathValue? (e : Endpoint) (arguments : List String) (name : String) : Option String :=
  ((e.inputs.path.map (·.name)).zip arguments).lookup name

theorem lookup_zip (names arguments : List String) (distinct : names.Nodup)
    (enough : names.length ≤ arguments.length) (place : Nat) (name argument : String)
    (named : names[place]? = some name) (given : arguments[place]? = some argument) :
    (names.zip arguments).lookup name = some argument := by
  apply lookup_of_mem
  · rw [List.map_fst_zip enough]
    exact distinct
  · apply List.mem_of_getElem? (i := place)
    rw [List.getElem?_zip_eq_some]
    exact ⟨named,given⟩

theorem Assembled.path_length_le {e : Endpoint} {hostname : Option String} {types : Signature}
    {r : RequestFunction} (made : Assembled e hostname types r) :
    e.inputs.path.length ≤ r.module.function.params.length := by
  have names := congrArg List.length made.params_names
  have bound := congrArg List.length (bindings_bound e.inputs.path).names_eq
  simp only [List.length_map,List.length_append] at names bound
  omega

section Call

variable {e : Endpoint} {hostname : Option String} {types : Signature} {r : RequestFunction}
  (made : Assembled e hostname types r) (arguments : List String)
  (called : arguments.length = r.module.function.params.length)

include made called

theorem Assembled.piece_text (piece : Segment) (part : TemplatePart)
    (fills : Fills e.inputs.path r.module.function.params piece part) :
    ∃ text, part.text? (r.module.function.scope arguments) = some text ∧
      piece.text? (e.pathValue? arguments) = some text := by
  cases fills with
  | literal text => exact ⟨text,rfl,rfl⟩
  | placeholder place a p argument parameter _ _ =>
    have bound : place < arguments.length := by
      rw [called]
      exact (List.getElem?_eq_some_iff.mp parameter).1
    have given := List.getElem?_eq_getElem bound
    refine ⟨arguments[place],?_,?_⟩
    · exact lookup_zip _ _ made.params_nodup (by simp [called]) place _ _ (by simp [parameter]) given
    · have distinct := made.placeholders.nodup_iff.mp (placeholders_nodup _)
      have enough := made.path_length_le
      exact lookup_zip _ _ distinct (by simpa [called] using enough) place _ _
        (by simp [argument]) given

theorem Assembled.template_text (pieces : List Segment) (parts : List TemplatePart)
    (filled : List.Forall₂ (Fills e.inputs.path r.module.function.params) pieces parts) :
    ∃ text, joinTexts? (TemplatePart.text? (r.module.function.scope arguments)) parts = some text ∧
      joinTexts? (Segment.text? (e.pathValue? arguments)) pieces = some text := by
  induction filled with
  | nil => exact ⟨"",rfl,rfl⟩
  | cons here _ ih =>
    obtain ⟨first,evaluated,meant⟩ := made.piece_text arguments called _ _ here
    obtain ⟨rest,restEvaluated,restMeant⟩ := ih
    exact ⟨first ++ rest,by simp [evaluated,restEvaluated],by simp [meant,restMeant]⟩

theorem Assembled.query_bound (asked : e.inputs.query.isEmpty = false) :
    ∃ argument, (r.module.function.scope arguments).lookup "query" = some argument := by
  have member : "query" ∈ r.module.function.params.map (·.name) := by
    rw [made.params_names]
    simp [asked]
  obtain ⟨place,named⟩ := List.mem_iff_getElem?.mp member
  have bound : place < arguments.length := by
    rw [called,← List.length_map (f := (·.name))]
    exact (List.getElem?_eq_some_iff.mp named).1
  exact ⟨_,lookup_zip _ _ made.params_nodup (by simp [called]) place _ _ named
    (List.getElem?_eq_getElem bound)⟩

end Call

theorem urlExpr_text (pieces : List Segment) (bound : List (String × String)) (hasQuery : Bool)
    (hostname : Option String) (scope : List (String × String)) (queryText path : String)
    (template : joinTexts? (TemplatePart.text? scope) (pieces.map (·.part bound)) = some path)
    (query : hasQuery = true → ∃ argument, scope.lookup "query" = some argument) :
    (urlExpr pieces bound hasQuery hostname).text? scope queryText =
      some (hostname.getD "" ++ path ++ if hasQuery then queryText else "") := by
  cases hasQuery with
  | false => cases hostname <;> simp [urlExpr,Expr.text?,template]
  | true =>
    obtain ⟨argument,found⟩ := query rfl
    cases hostname <;> simp [urlExpr,Expr.text?,template,found,String.append_assoc]

/-- A call with an argument for each parameter asks for the host name, the path with each name replaced
by what the call passes for it, and the query where the endpoint takes one. -/
theorem request_url_text (e : Endpoint) (definitions : Table Schema) (hostname : Option String)
    (r : RequestFunction) (accepted : e.request definitions hostname = .ok r) (p : PathPattern)
    (written : e.path = p.text) (arguments : List String) (queryText : String)
    (called : arguments.length = r.module.function.params.length) :
    ∃ path, p.fill? (e.pathValue? arguments) = some path ∧
      (r.module.function.url?.bind (·.text? (r.module.function.scope arguments) queryText)) =
        some (hostname.getD "" ++ path ++
          if (e.argumentsIn .query).isEmpty then "" else queryText) := by
  obtain ⟨types,made⟩ := request_assembled e definitions hostname r accepted
  obtain ⟨path,template,meant⟩ := made.template_text arguments called _ _ made.filled
  refine ⟨path,?_,?_⟩
  · rw [← joinTexts?_segments,← written]
    exact meant
  · rw [made.url,Option.bind_some,urlExpr_text _ _ _ _ _ _ path template]
    · cases empty : (e.argumentsIn .query).isEmpty <;> simp [Endpoint.inputs,empty]
    · intro asked
      exact made.query_bound arguments called (by simpa using asked)

def filesPattern : PathPattern where
  start := "/files/"
  rest := [("file-id", "/"), ("file_id", "/"), ("file-id", "")]
  start_free := by decide
  names_free := by decide
  texts_free := by decide

/-- The arguments are declared in another order than the path has them, and one occurs twice. -/
theorem request_url_text_files : ∃ r path,
    filesEndpoint.request [] (some "https://api.test") = .ok r ∧
    filesPattern.fill? (filesEndpoint.pathValue? ["a", "b", "?"]) = some path ∧
    path = "/files/b/a/b" ∧
    (r.module.function.url?.bind
      (·.text? (r.module.function.scope ["a", "b", "?"]) "?data=1")) =
      some ("https://api.test" ++ path ++ "?data=1") := by
  have accepted := (request_ok_iff filesEndpoint [] (some "https://api.test") _).mpr
    ⟨by decide,⟨[.string,.any],some (.exact [⟨"data",.number,true⟩]),none,.named "AjaxPipe"⟩,
      ["AjaxPipe"],rfl,rfl⟩
  obtain ⟨path,filled,asked⟩ := request_url_text filesEndpoint [] (some "https://api.test") _
    accepted filesPattern (by decide +kernel) ["a", "b", "?"] "?data=1" (by decide +kernel)
  have known : filesPattern.fill? (filesEndpoint.pathValue? ["a", "b", "?"]) =
      some "/files/b/a/b" := by decide +kernel
  exact ⟨_,path,accepted,filled,Option.some.inj (filled.symm.trans known),asked⟩

end FlowClient
