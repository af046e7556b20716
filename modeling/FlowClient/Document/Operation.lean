import FlowClient.Document.Parameter

/-!
Path items with their operations and responses.
-/

namespace FlowClient

/-- A response object. One given as a reference has no schema here. -/
structure Response where
  ref : Option String := none
  description : Option String := none
  schema : Option Schema := none
deriving Inhabited

structure Operation where
  operationId : Option String := none
  summary : Option String := none
  description : Option String := none
  tags : List String := []
  consumes : List String := []
  parameters : List ParameterEntry := []
  responses : Table Response := []
  deprecated : Option Bool := none
deriving Inhabited

def Operation.successSchema? (op : Operation) : Option Schema :=
  ["200", "default"].findSome? fun code => (op.responses.get? code).bind (·.schema)

/-- The methods that operations may have, in the order in which a path item lists them. -/
inductive Method
  | get
  | put
  | post
  | delete
  | options
  | patch
deriving DecidableEq, Repr, Inhabited

namespace Method

def all : List Method := [.get, .put, .post, .delete, .options, .patch]

theorem mem_all (m : Method) : m ∈ all := by
  cases m <;> decide

def verb : Method → String
  | get => "GET"
  | put => "PUT"
  | post => "POST"
  | delete => "DELETE"
  | options => "OPTIONS"
  | patch => "PATCH"

end Method

structure PathItem where
  ref : Option String := none
  parameters : List ParameterEntry := []
  get : Option Operation := none
  put : Option Operation := none
  post : Option Operation := none
  delete : Option Operation := none
  options : Option Operation := none
  patch : Option Operation := none
deriving Inhabited

def PathItem.operation? (item : PathItem) : Method → Option Operation
  | .get => item.get
  | .put => item.put
  | .post => item.post
  | .delete => item.delete
  | .options => item.options
  | .patch => item.patch

end FlowClient
