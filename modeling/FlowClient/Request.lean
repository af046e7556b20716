import FlowClient.Declaration
import FlowClient.Endpoint
import FlowClient.Flow.Module
import FlowClient.Url

/-!
The request function for an endpoint: its parameters and their types, the URL, the request object, and
the module that holds it all.
-/

namespace FlowClient

def pipeName : String := "AjaxPipe"
def queryHelper : String := "makeQuery"
def formHelper : String := "makeFormData"

/-- Names that the modules bind before any definition is imported. -/
def runtimeBindings : List String := [requestType, queryHelper, formHelper, pipeName]

def helperSource (name : String) : String := "../helpers/" ++ name
def typeSource (name : String) : String := "../types/" ++ name

def textLe (a b : String) : Bool := !(b < a)

def sortTexts (texts : List String) : List String := texts.mergeSort textLe

def checkPlaceholders (e : Endpoint) (pieces : List Segment) (path : List Argument) :
    Except ConversionError Unit :=
  let used := sortTexts (placeholders pieces)
  let provided := sortTexts (path.map (·.name))
  if used = provided then .ok () else .error (.placeholderMismatch e.id e.path used provided)

def argumentsSchema (arguments : List Argument) : Schema := {
  type := some "object"
  properties := Table.ofEntries (arguments.map fun a => (a.name, a.schema.getD {}))
  required := (arguments.filter (·.required)).map (·.name) }

/-- Path parameter names with the identifiers they are bound to, which differ. -/
def bindings (path : List Argument) : List (String × String) :=
  path.foldl (fun bound a =>
    bound ++ [(a.name, freshName (bound.map Prod.snd) (parameterIdentifier a.name))]) []

def flowTypeOrAny (definitions : Table Schema) : Option Schema → Typing FlowType
  | some s => flowType definitions s
  | none => return .any

structure Signature where
  path : List FlowType
  query : Option FlowType
  data : Option FlowType
  response : FlowType

/-- The arguments of an endpoint by their part of the request. Only required path arguments count, and
form data comes before a body. -/
structure Inputs where
  path : List Argument
  query : List Argument
  form : List Argument
  body : Option Argument

def Endpoint.inputs (e : Endpoint) : Inputs where
  path := (e.argumentsIn .path).filter (·.required)
  query := e.argumentsIn .query
  form := e.argumentsIn .formData
  body := (e.argumentsIn .body).head?

def Inputs.dataType (i : Inputs) (definitions : Table Schema) : Typing (Option FlowType) :=
  if !i.form.isEmpty then some <$> flowType definitions (argumentsSchema i.form)
  else match i.body with
    | some a => some <$> flowTypeOrAny definitions a.schema
    | none => return none

/-- The types of an endpoint's function, in the order of its parameters, the response last. -/
def Inputs.signature (i : Inputs) (definitions : Table Schema) (response : Option Schema) :
    Typing Signature := do
  let path ← i.path.mapM fun a => flowTypeOrAny definitions a.schema
  let query ←
    if i.query.isEmpty then pure none
    else some <$> flowType definitions (argumentsSchema i.query)
  let data ← i.dataType definitions
  let response ← flowTypeOrAny definitions response
  return ⟨path, query, data, response⟩

/-- The names under which definitions are imported. One with the name of a runtime binding is imported
under a name that nothing else in the module has. -/
def localNames (imports : List String) : List String :=
  imports.foldl (fun locals name =>
    locals ++ [if runtimeBindings.contains name then
        freshName (runtimeBindings ++ imports ++ locals) (name ++ "_")
      else name]) []

def renamesOf (imports locals : List String) : List (String × String) :=
  (imports.zip locals).filter fun pair => pair.1 != pair.2

def responseAlias (locals : List String) : String :=
  freshName (runtimeBindings ++ locals) "Response"

def Signature.rename (renames : List (String × String)) (s : Signature) : Signature where
  path := s.path.map (·.rename renames)
  query := s.query.map (·.rename renames)
  data := s.data.map (·.rename renames)
  response := s.response.rename renames

def Signature.params (s : Signature) (bound : List (String × String)) : List Param :=
  (bound.zip s.path).map (fun pair => ⟨pair.1.2, pair.2⟩) ++
    (s.query.map fun type => ⟨"query", type⟩).toList ++
    (s.data.map fun type => ⟨"data", type⟩).toList

def Segment.part (bound : List (String × String)) : Segment → TemplatePart
  | .literal text => .literal text
  | .placeholder name => .variable ((bound.lookup name).getD (parameterIdentifier name))

def urlExpr (pieces : List Segment) (bound : List (String × String)) (hasQuery : Bool)
    (hostname : Option String) : Expr :=
  let path := Expr.template (pieces.map (·.part bound))
  let path := if hasQuery then .concat path (.call queryHelper [.ident "query"]) else path
  match hostname with
  | some host => .concat (.str host) path
  | none => path

def requestExpr (method : Method) (url : Expr) (hasData hasForm : Bool) : Expr :=
  let data := if hasForm then Expr.call formHelper [.ident "data"] else .ident "data"
  .object ([("method", .str method.verb), ("url", url)] ++
    (if hasData then [("data", data)] else []))

def helperImport (name : String) : Import := ⟨.value, [.default name], helperSource name⟩

def typeImport (name localName : String) : Import :=
  ⟨.type, [if name = localName then .named name else .aliased name localName], typeSource name⟩

def requestImports (hasQuery hasForm : Bool) (imports locals : List String) : List Import :=
  [typeImport requestType requestType] ++
    (if hasQuery then [helperImport queryHelper] else []) ++
    (if hasForm then [helperImport formHelper] else []) ++
    [helperImport pipeName] ++
    List.zipWith typeImport imports locals

structure RequestFunction where
  name : String
  functionName : String
  method : Method
  path : String
  summary : Option String
  description : Option String
  module : Module
  typeImports : List String
deriving Repr

def Endpoint.assemble (e : Endpoint) (hostname : Option String) (types : Signature)
    (names : List String) : RequestFunction :=
  let inputs := e.inputs
  let hasQuery := !inputs.query.isEmpty
  let hasForm := !inputs.form.isEmpty
  let bound := bindings inputs.path
  let imports := importNames names none
  let locals := localNames imports
  let types := types.rename (renamesOf imports locals)
  let response := responseAlias locals
  let url := urlExpr (segments e.path) bound hasQuery hostname
  let request := requestExpr e.method url types.data.isSome hasForm
  { name := e.id
    functionName := functionName e.id
    method := e.method
    path := e.path
    summary := e.summary
    description := e.description
    module := {
      imports := requestImports hasQuery hasForm imports locals
      aliases := [⟨response, types.response, false⟩]
      function := {
        name := functionName e.id
        params := types.params bound
        body := .new pipeName [request]
        returnType := .generic pipeName [.named requestType, .named response] } }
    typeImports := imports }

def Endpoint.request (e : Endpoint) (definitions : Table Schema) (hostname : Option String) :
    Except ConversionError RequestFunction := do
  checkPlaceholders e (segments e.path) e.inputs.path
  match (e.inputs.signature definitions e.responseSchema).run [] with
  | some (types, names) => return e.assemble hostname types names
  | none => throw .endlessComposition

end FlowClient
