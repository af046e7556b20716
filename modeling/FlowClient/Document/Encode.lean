import FlowClient.Document.Basic

/-!
Documents written as JSON trees. What is absent or empty is left out; members stand in the order of
the fields.
-/

namespace FlowClient

def memberIf (name : String) (value : Option Json) : List (String × Json) :=
  match value with
  | some j => [(name, j)]
  | none => []

def listIf (name : String) (items : List Json) : List (String × Json) :=
  if items.isEmpty then [] else [(name, .arr items)]

def tableIf (name : String) (members : List (String × Json)) : List (String × Json) :=
  if members.isEmpty then [] else [(name, .obj members)]

mutual

def Schema.toJson : Schema → Json
  | ⟨ref, type, format, title, description, properties, required, items, allOf, enumValues,
      defaultValue, exampleValue⟩ => .obj <|
    memberIf "$ref" (ref.map .str) ++
    memberIf "type" (type.map .str) ++
    memberIf "format" (format.map .str) ++
    memberIf "title" (title.map .str) ++
    memberIf "description" (description.map .str) ++
    tableIf "properties" (schemaMembers properties) ++
    listIf "required" (required.map .str) ++
    memberIf "items" (schemaIf items) ++
    listIf "allOf" (schemaItems allOf) ++
    listIf "enum" enumValues ++
    memberIf "default" defaultValue ++
    memberIf "example" exampleValue

def schemaIf : Option Schema → Option Json
  | none => none
  | some s => some s.toJson

def schemaItems : List Schema → List Json
  | [] => []
  | s :: rest => s.toJson :: schemaItems rest

def schemaMembers : List (String × Schema) → List (String × Json)
  | [] => []
  | (name, s) :: rest => (name, s.toJson) :: schemaMembers rest

end

def Parameter.toJson (p : Parameter) : Json := .obj <|
  [("name", .str p.name), ("in", .str p.location.word)] ++
  memberIf "description" (p.description.map .str) ++
  [("required", .bool p.required)] ++
  memberIf "schema" (p.schema.map Schema.toJson) ++
  memberIf "type" (p.type.map .str) ++
  memberIf "format" (p.format.map .str) ++
  memberIf "items" (p.items.map Schema.toJson) ++
  listIf "enum" p.enumValues ++
  memberIf "collectionFormat" (p.collectionFormat.map .str)

def ParameterEntry.toJson : ParameterEntry → Json
  | .reference path => .obj [("$ref", .str path)]
  | .inline p => p.toJson

def Response.toJson (r : Response) : Json := .obj <|
  memberIf "$ref" (r.ref.map .str) ++
  memberIf "description" (r.description.map .str) ++
  memberIf "schema" (r.schema.map Schema.toJson)

def Table.toMembers {α : Type} (write : α → Json) (t : Table α) : List (String × Json) :=
  t.map fun e => (e.1, write e.2)

def Operation.toJson (o : Operation) : Json := .obj <|
  memberIf "operationId" (o.operationId.map .str) ++
  memberIf "summary" (o.summary.map .str) ++
  memberIf "description" (o.description.map .str) ++
  listIf "tags" (o.tags.map .str) ++
  listIf "consumes" (o.consumes.map .str) ++
  listIf "parameters" (o.parameters.map ParameterEntry.toJson) ++
  tableIf "responses" (o.responses.toMembers Response.toJson) ++
  memberIf "deprecated" (o.deprecated.map .bool)

def PathItem.toJson (i : PathItem) : Json := .obj <|
  memberIf "$ref" (i.ref.map .str) ++
  listIf "parameters" (i.parameters.map ParameterEntry.toJson) ++
  memberIf "get" (i.get.map Operation.toJson) ++
  memberIf "put" (i.put.map Operation.toJson) ++
  memberIf "post" (i.post.map Operation.toJson) ++
  memberIf "delete" (i.delete.map Operation.toJson) ++
  memberIf "options" (i.options.map Operation.toJson) ++
  memberIf "patch" (i.patch.map Operation.toJson)

def PathEntry.toJson : PathEntry → Json
  | .item i => i.toJson
  | .other j => j

def Info.toJson (i : Info) : Json := .obj <|
  [("title", .str i.title)] ++
  memberIf "description" (i.description.map .str) ++
  [("version", .str i.version)]

def Tag.toJson (t : Tag) : Json := .obj <|
  [("name", .str t.name)] ++ memberIf "description" (t.description.map .str)

def Document.toJson (d : Document) : Json := .obj <|
  [("swagger", .str d.swagger), ("info", d.info.toJson)] ++
  memberIf "host" (d.host.map .str) ++
  memberIf "basePath" (d.basePath.map .str) ++
  listIf "schemes" (d.schemes.map .str) ++
  listIf "consumes" (d.consumes.map .str) ++
  listIf "produces" (d.produces.map .str) ++
  tableIf "paths" (d.paths.toMembers PathEntry.toJson) ++
  tableIf "definitions" (d.definitions.toMembers Schema.toJson) ++
  tableIf "parameters" (d.parameters.toMembers Parameter.toJson) ++
  listIf "tags" (d.tags.map Tag.toJson)

end FlowClient
