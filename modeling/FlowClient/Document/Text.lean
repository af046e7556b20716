import FlowClient.Document.Fields
import FlowClient.Json.Draft
import FlowClient.Json.Reader
import FlowClient.Yaml.Draft

/-!
Documents read from texts. A document must be of version 2, and whatever stands under a path in its
table of paths must be a path item.
-/

namespace FlowClient

inductive DocumentError
  | yaml
  | json (fault : Fault)
  | unsupportedVersion (version : String)
  | missingField (name : String)
  | invalidPathItem (path : String) (why : Fault)
deriving DecidableEq, Repr

def Fault.message : Fault → String
  | .mismatch why => why.message
  | _ => ""

def DocumentError.message : DocumentError → String
  | .yaml => "failed to parse YAML: "
  | .json fault => "failed to parse JSON: " ++ fault.message
  | .unsupportedVersion version => "unsupported Swagger version: " ++ version
  | .missingField name => "missing required field: " ++ name
  | .invalidPathItem path why => "invalid path item at " ++ path ++ ": " ++ why.message

namespace Document

/-- The version is 2 with any minor number. -/
def checkVersion (d : Document) : Except DocumentError Unit :=
  if d.swagger.isEmpty then .error (.missingField "swagger")
  else if (after? "2." d.swagger).isNone then .error (.unsupportedVersion d.swagger)
  else .ok ()

def checkEntry (path : String) : PathEntry → Except DocumentError Unit
  | .item _ => .ok ()
  | .other value =>
    if path.toList.head? = some '/' then
      match (PathItem.read value.toDraft).result 0 with
      | .ok _ => .ok ()
      | .error why => .error (.invalidPathItem path why)
    else .ok ()

def checkPaths (d : Document) : Except DocumentError Unit :=
  d.paths.forM fun entry => checkEntry entry.1 entry.2

def check (d : Document) : Except DocumentError Document := do
  d.checkVersion
  d.checkPaths
  return d

def ofJsonText (text : String) : Except DocumentError Document := do
  let d ← (JsonText.read Document.read text).mapError .json
  d.check

def ofYamlText (text : String) : Except DocumentError Document := do
  let d ← (Yaml.read Document.read text).mapError fun _ => .yaml
  d.check

end Document

end FlowClient
