import FlowClient.Document.Schema

/-!
Parameters of operations, and references to shared ones.
-/

namespace FlowClient

inductive Location
  | path
  | query
  | header
  | formData
  | body
deriving DecidableEq, Repr, Inhabited

def Location.words : List (String × Location) :=
  [("path", .path), ("query", .query), ("header", .header), ("formData", .formData), ("body", .body)]

def Location.word : Location → String
  | .path => "path"
  | .query => "query"
  | .header => "header"
  | .formData => "formData"
  | .body => "body"

/-- A parameter object. In the body it has a schema; elsewhere its value is described in place. -/
structure Parameter where
  name : String := ""
  location : Location := .path
  description : Option String := none
  required : Bool := false
  schema : Option Schema := none
  type : Option String := none
  format : Option String := none
  items : Option Schema := none
  enumValues : List Json := []
  collectionFormat : Option String := none
deriving Inhabited

def Parameter.valueSchema? (p : Parameter) : Option Schema :=
  match p.schema with
  | some s => some s
  | none => p.type.map fun type =>
    { type := some type, format := p.format, description := p.description, items := p.items,
      enumValues := p.enumValues }

inductive ParameterEntry
  | reference (path : String)
  | inline (parameter : Parameter)
deriving Inhabited

end FlowClient
