import FlowClient.Document.Operation

/-!
A whole Swagger 2.0 document.
-/

namespace FlowClient

structure Info where
  title : String := ""
  description : Option String := none
  version : String := ""
deriving Inhabited

structure Tag where
  name : String := ""
  description : Option String := none
deriving Inhabited

inductive PathEntry
  | item (item : PathItem)
  | other (value : Json)
deriving Inhabited

def PathEntry.item? : PathEntry → Option PathItem
  | .item i => some i
  | .other _ => none

structure Document where
  swagger : String := ""
  info : Info := {}
  host : Option String := none
  basePath : Option String := none
  schemes : List String := []
  consumes : List String := []
  produces : List String := []
  paths : Table PathEntry := []
  definitions : Table Schema := []
  parameters : Table Parameter := []
  tags : List Tag := []
deriving Inhabited

end FlowClient
