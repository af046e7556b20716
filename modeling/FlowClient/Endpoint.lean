import FlowClient.ConversionError
import FlowClient.Naming.Route
import FlowClient.Warning

/-!
The endpoints of a document: every operation with its full path, its identifier and all the parameters
that apply to it.
-/

namespace FlowClient

inductive Placement
  | path
  | query
  | formData
  | body
deriving DecidableEq, Repr, Inhabited

/-- Header parameters are carried in no part that a client fills. -/
def Location.placement? : Location → Option Placement
  | .path => some .path
  | .query => some .query
  | .formData => some .formData
  | .body => some .body
  | .header => none

structure Argument where
  name : String
  placement : Placement
  required : Bool
  schema : Option Schema
  description : Option String
deriving Inhabited

structure Endpoint where
  method : Method
  path : String
  id : String
  arguments : List Argument
  responseSchema : Option Schema
  summary : Option String
  description : Option String
deriving Inhabited

namespace Endpoint

def argumentsIn (e : Endpoint) (placement : Placement) : List Argument :=
  e.arguments.filter (·.placement = placement)

def isUndocumented (e : Endpoint) : Bool := e.summary.isNone && e.description.isNone

end Endpoint

def Parameter.argument? (p : Parameter) : Option Argument :=
  p.location.placement?.map fun placement =>
    ⟨p.name, placement, p.required, p.valueSchema?, p.description⟩

def parametersRoot : String := "#/parameters/"

def findParameter (shared : Table Parameter) (ref : String) : Except ConversionError Parameter :=
  match after? parametersRoot ref with
  | none => .error (.invalidReference ref)
  | some name =>
    match shared.get? name with
    | none => .error (.unresolvedParameter ref)
    | some p => .ok p

def ParameterEntry.resolve (shared : Table Parameter) :
    ParameterEntry → Except ConversionError Parameter
  | .inline p => .ok p
  | .reference ref => findParameter shared ref

def resolveArguments (shared : Table Parameter) (entries : List ParameterEntry) :
    Except ConversionError (List Argument) := do
  return (← entries.mapM (·.resolve shared)).filterMap Parameter.argument?

def addArgument (arguments : List Argument) (a : Argument) : List Argument :=
  if arguments.any fun b => b.name = a.name && b.placement = a.placement then arguments
  else arguments ++ [a]

/-- An operation's own arguments, and after them those of its path that it does not replace. -/
def mergeArguments (own shared : List Argument) : List Argument :=
  shared.foldl addArgument own

def trimSlashes (s : String) : String :=
  String.ofList ((s.toList.reverse.dropWhile (· = '/')).reverse)

def Document.effectiveBasePath (d : Document) (given : Option String) : String :=
  trimSlashes ((given.or d.basePath).getD "")

def Operation.endpoint (op : Operation) (parameters : Table Parameter) (base path : String)
    (method : Method) (shared : List Argument) : Except ConversionError Endpoint := do
  let own ← resolveArguments parameters op.parameters
  return {
    method, path := base ++ path
    id := operationName (op.operationId.getD (routeName method.verb path))
    arguments := mergeArguments own shared
    responseSchema := op.successSchema?
    summary := op.summary
    description := op.description }

def PathItem.endpoints (item : PathItem) (parameters : Table Parameter) (base path : String) :
    Except ConversionError (List Endpoint) := do
  let shared ← resolveArguments parameters item.parameters
  let declared := Method.all.filterMap fun m => (item.operation? m).map fun op => (m, op)
  declared.mapM fun entry => entry.2.endpoint parameters base path entry.1 shared

def isPathless (key : String) : Bool :=
  key = "parameters" || key = "$ref" || (after? "x-" key).isSome

def Document.pathItems (d : Document) : List (String × PathItem) :=
  d.paths.filterMap fun entry =>
    if isPathless entry.1 then none else entry.2.item?.map fun item => (entry.1, item)

/-- The texts that occur more than once, each at its first place. -/
def repeated (texts : List String) : List String :=
  texts.eraseDups.filter fun t => 1 < texts.count t

/-- All endpoints of a document in its order. No two of them have one identifier. -/
def Document.endpoints (d : Document) (basePath : Option String) :
    Except ConversionError (List Endpoint) := do
  let base := d.effectiveBasePath basePath
  let groups ← d.pathItems.mapM fun entry => entry.2.endpoints d.parameters base entry.1
  let all := groups.flatten
  let twice := repeated (all.map (·.id))
  if twice.isEmpty then return all else throw (.duplicateIdentifiers twice)

def documentationWarnings (endpoints : List Endpoint) : List Warning :=
  (endpoints.filter (·.isUndocumented)).map fun e => .documentationIncomplete e.id

end FlowClient
