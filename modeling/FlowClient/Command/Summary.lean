import FlowClient.Client

/-!
The summary of a client, as a value with its members in ascending order.
-/

namespace FlowClient

def textList (texts : List String) : Json := .arr (texts.map .str)

def Declaration.summary (d : Declaration) : Json := .obj [
  ("imports", textList d.imports),
  ("name", .str d.name)]

def RequestFunction.digest (r : RequestFunction) : Json := .obj [
  ("function", .str r.functionName),
  ("method", .str r.method.verb),
  ("name", .str r.name),
  ("path", .str r.path),
  ("type_imports", textList r.typeImports)]

def Client.summary (c : Client) : Json := .obj [
  ("definitions", .arr (c.declarations.map Declaration.summary)),
  ("hostname", match c.hostname with
    | some host => .str host
    | none => .null),
  ("info", .obj [("title", .str c.info.title), ("version", .str c.info.version)]),
  ("operations", .arr (c.requests.map RequestFunction.digest)),
  ("warnings", textList (c.warnings.map Warning.message))]

end FlowClient
