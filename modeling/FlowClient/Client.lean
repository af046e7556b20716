import FlowClient.Request

/-!
The client for a document: its declared types, its request functions, and the warnings on the way.
-/

namespace FlowClient

structure Overrides where
  basePath : Option String := none
  baseUrl : Option String := none
deriving DecidableEq, Repr, Inhabited

structure Client where
  info : Info
  hostname : Option String
  declarations : List Declaration
  requests : List RequestFunction
  warnings : List Warning

/-- What stands before every path: the given URL without slashes at its end, else the first scheme and
the host, where both are declared. -/
def Document.hostname? (d : Document) (baseUrl : Option String) : Option String :=
  match baseUrl with
  | some url => some (trimSlashes url)
  | none => do
    let host ← d.host
    let scheme ← d.schemes.head?
    return scheme ++ "://" ++ host

def Document.schemeWarnings (d : Document) (baseUrl : Option String) : List Warning :=
  match baseUrl, d.host, d.schemes with
  | none, some _, used :: more :: rest => [.multipleSchemes used (used :: more :: rest)]
  | _, _, _ => []

def Document.client (d : Document) (overrides : Overrides := {}) :
    Except ConversionError Client := do
  let endpoints ← d.endpoints overrides.basePath
  let declared ← declarations d.definitions
  let hostname := d.hostname? overrides.baseUrl
  let requests ← endpoints.mapM fun e => e.request d.definitions hostname
  return {
    info := d.info
    hostname
    declarations := declared
    requests
    warnings := documentationWarnings endpoints ++ collisionWarnings d.definitions.names ++
      d.schemeWarnings overrides.baseUrl }

end FlowClient
