import FlowClient.ConversionError
import FlowClient.Text.Lowercase
import FlowClient.Typing
import FlowClient.Warning

/-!
The type declarations of a document, one for each definition.
-/

namespace FlowClient

def requestType : String := "AjaxObject"

structure Declaration where
  name : String
  type : FlowType
  imports : List String
deriving Inhabited, Repr

def declare? (definitions : Table Schema) (name : String) (s : Schema) : Option Declaration := do
  let (type, names) ← (flowType definitions s).run []
  return ⟨name, type, importNames names (some name)⟩

def declarations (definitions : Table Schema) : Except ConversionError (List Declaration) :=
  if (definitions.get? requestType).isSome then .error (.reservedDefinition requestType)
  else match definitions.mapM fun entry => declare? definitions entry.1 entry.2 with
    | some all => .ok all
    | none => .error .endlessComposition

/-- A warning for each name that an earlier one equals in lowercase; it names the first such one. -/
def collisionWarnings (names : List String) : List Warning :=
  go [] names
where
  go (before : List String) : List String → List Warning
    | [] => []
    | name :: rest =>
      let lower := Text.lowercase name
      match before.find? fun n => Text.lowercase n = lower with
      | some existing => .caseCollision name existing :: go before rest
      | none => go (before ++ [name]) rest

end FlowClient
