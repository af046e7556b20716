import FlowClient.Json.Basic
import FlowClient.Table

/-!
Schema objects of a Swagger 2.0 document.
-/

namespace FlowClient

/-- A schema object. The type is kept as it is written: unknown ones must still be readable. -/
structure Schema where
  ref : Option String := none
  type : Option String := none
  format : Option String := none
  title : Option String := none
  description : Option String := none
  properties : List (String × Schema) := []
  required : List String := []
  items : Option Schema := none
  allOf : List Schema := []
  enumValues : List Json := []
  defaultValue : Option Json := none
  exampleValue : Option Json := none
deriving Inhabited

inductive SchemaKind
  | reference (name : String)
  | composite (parts : List Schema)
  | object
  | array (items : Option Schema)
  | string (values : List Json)
  | number
  | boolean
  | any

def definitionsRoot : String := "#/definitions/"

def after? (beginning s : String) : Option String :=
  (beginning.toList.isPrefixOf? s.toList).map String.ofList

namespace Schema

def definitionName? (s : Schema) : Option String :=
  s.ref.bind (after? definitionsRoot)

/-- A reference to a definition comes before a composition, and a composition before the type. -/
def kind (s : Schema) : SchemaKind :=
  match s.definitionName? with
  | some name => .reference name
  | none =>
    if !s.allOf.isEmpty then .composite s.allOf
    else match s.type with
      | some "object" => .object
      | some "array" => .array s.items
      | some "string" => .string s.enumValues
      | some "number" => .number
      | some "integer" => .number
      | some "float" => .number
      | some "int64" => .number
      | some "boolean" => .boolean
      | _ => .any

def ofType (type : String) : Schema := { type := some type }

end Schema

end FlowClient
