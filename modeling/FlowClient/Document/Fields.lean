import FlowClient.Draft.Record
import FlowClient.Document.Basic

/-!
The objects of a document as records: their fields in order, which of them may be left out, and how
each is read.
-/

namespace FlowClient

open Reading (fail)

def Draft.room : Draft → Nat
  | .array room _ _ => room
  | .object room _ => room
  | .tagged _ d => d.room
  | .deferred d => (d ()).room
  | _ => 0

def Reading.orElse {α : Type} (first second : Reading α) : Reading α := fun left =>
  match first left with
  | .ok result => .ok result
  | .error _ => second left

def Draft.texts (d : Draft) : Reading (List String) := d.list Draft.text

def schemaRecord (inner : Draft → Reading Schema) : Record Schema where
  name := "Schema"
  blank := {}
  fields := [
    .maybe "$ref" Draft.text fun v s => { s with ref := v },
    .maybe "type" Draft.text fun v s => { s with type := v },
    .maybe "format" Draft.text fun v s => { s with format := v },
    .maybe "title" Draft.text fun v s => { s with title := v },
    .maybe "description" Draft.text fun v s => { s with description := v },
    .of "properties" .defaulted (Draft.table inner) fun v s => { s with properties := v },
    .of "required" .defaulted Draft.texts fun v s => { s with required := v },
    .maybe "items" inner fun v s => { s with items := v },
    .of "allOf" .defaulted (Draft.list inner) fun v s => { s with allOf := v },
    .of "enum" .defaulted (Draft.list Draft.keep) fun v s => { s with enumValues := v },
    .maybe "default" Draft.keep fun v s => { s with defaultValue := v },
    .maybe "example" Draft.keep fun v s => { s with exampleValue := v }]

def Schema.readWithin : Nat → Draft → Reading Schema
  | 0, _ => fail .malformed
  | levels + 1, d => (schemaRecord (Schema.readWithin levels)).read d

/-- A schema. It cannot nest deeper than the draft has room for. -/
def Schema.read (d : Draft) : Reading Schema := Schema.readWithin (d.room + 1) d

/-- The record of parameters. Where it is read from a settled value, an empty object counts as null in
the location. -/
def parameterRecord (settled : Bool) : Record Parameter where
  name := "Parameter"
  blank := {}
  fields := [
    .of "name" .required Draft.text fun v p => { p with name := v },
    .of "in" .required (Draft.variant settled Location.words) fun v p => { p with location := v },
    .maybe "description" Draft.text fun v p => { p with description := v },
    .of "required" .defaulted Draft.flag fun v p => { p with required := v },
    .maybe "schema" Schema.read fun v p => { p with schema := v },
    .maybe "type" Draft.text fun v p => { p with type := v },
    .maybe "format" Draft.text fun v p => { p with format := v },
    .maybe "items" Schema.read fun v p => { p with items := v },
    .of "enum" .defaulted (Draft.list Draft.keep) fun v p => { p with enumValues := v },
    .maybe "collectionFormat" Draft.text fun v p => { p with collectionFormat := v }]

def Parameter.read : Draft → Reading Parameter := (parameterRecord false).read

/-- The record of a reference, of which nothing but the path is kept. -/
def referenceRecord : Record String where
  name := "ParameterOrRef"
  blank := ""
  fields := [.of "$ref" .required Draft.text fun v _ => v]

/-- A parameter entry. Every object with a reference is one, whatever else it holds. -/
def ParameterEntry.read (d : Draft) : Reading ParameterEntry := do
  let d ← d.settle
  Reading.orElse (.reference <$> referenceRecord.readObject d)
    (Reading.orElse (.inline <$> (parameterRecord true).read d)
      (fail (.mismatch (.noAlternative "ParameterOrRef"))))

def responseRecord : Record Response where
  name := "Response"
  blank := {}
  fields := [
    .maybe "$ref" Draft.text fun v r => { r with ref := v },
    .maybe "description" Draft.text fun v r => { r with description := v },
    .maybe "schema" Schema.read fun v r => { r with schema := v }]

def Response.read : Draft → Reading Response := responseRecord.read

def operationRecord : Record Operation where
  name := "Operation"
  blank := {}
  fields := [
    .maybe "operationId" Draft.text fun v o => { o with operationId := v },
    .maybe "summary" Draft.text fun v o => { o with summary := v },
    .maybe "description" Draft.text fun v o => { o with description := v },
    .of "tags" .defaulted Draft.texts fun v o => { o with tags := v },
    .of "consumes" .defaulted Draft.texts fun v o => { o with consumes := v },
    .of "parameters" .defaulted (Draft.list ParameterEntry.read) fun v o => { o with parameters := v },
    .of "responses" .defaulted (Draft.table Response.read) fun v o => { o with responses := v },
    .maybe "deprecated" Draft.flag fun v o => { o with deprecated := v }]

def Operation.read : Draft → Reading Operation := operationRecord.read

def pathItemRecord : Record PathItem where
  name := "PathItem"
  blank := {}
  fields := [
    .maybe "$ref" Draft.text fun v i => { i with ref := v },
    .of "parameters" .defaulted (Draft.list ParameterEntry.read) fun v i => { i with parameters := v },
    .maybe "get" Operation.read fun v i => { i with get := v },
    .maybe "put" Operation.read fun v i => { i with put := v },
    .maybe "post" Operation.read fun v i => { i with post := v },
    .maybe "delete" Operation.read fun v i => { i with delete := v },
    .maybe "options" Operation.read fun v i => { i with options := v },
    .maybe "patch" Operation.read fun v i => { i with patch := v }]

def PathItem.read : Draft → Reading PathItem := pathItemRecord.read

/-- An entry of the table of paths: a path item if it reads as one, else the value as it is. -/
def PathEntry.read (d : Draft) : Reading PathEntry := do
  let d ← d.settle
  Reading.orElse (.item <$> PathItem.read d)
    (Reading.orElse (.other <$> d.keep) (fail (.mismatch (.noAlternative "PathEntry"))))

def infoRecord : Record Info where
  name := "Info"
  blank := {}
  fields := [
    .of "title" .defaulted Draft.text fun v i => { i with title := v },
    .maybe "description" Draft.text fun v i => { i with description := v },
    .of "version" .defaulted Draft.text fun v i => { i with version := v }]

def tagRecord : Record Tag where
  name := "Tag"
  blank := {}
  fields := [
    .of "name" .required Draft.text fun v t => { t with name := v },
    .maybe "description" Draft.text fun v t => { t with description := v }]

def documentRecord : Record Document where
  name := "SwaggerSpec"
  blank := {}
  fields := [
    .of "swagger" .defaulted Draft.text fun v d => { d with swagger := v },
    .of "info" .defaulted infoRecord.read fun v d => { d with info := v },
    .maybe "host" Draft.text fun v d => { d with host := v },
    .maybe "basePath" Draft.text fun v d => { d with basePath := v },
    .of "schemes" .defaulted Draft.texts fun v d => { d with schemes := v },
    .of "consumes" .defaulted Draft.texts fun v d => { d with consumes := v },
    .of "produces" .defaulted Draft.texts fun v d => { d with produces := v },
    .of "paths" .defaulted (Draft.table PathEntry.read) fun v d => { d with paths := v },
    .of "definitions" .defaulted (Draft.table Schema.read) fun v d => { d with definitions := v },
    .of "parameters" .defaulted (Draft.table Parameter.read) fun v d => { d with parameters := v },
    .of "tags" .defaulted (Draft.list tagRecord.read) fun v d => { d with tags := v }]

def Document.read : Draft → Reading Document := documentRecord.read

end FlowClient
