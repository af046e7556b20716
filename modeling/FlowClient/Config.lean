import FlowClient.Client
import FlowClient.FileSystem.Basic
import FlowClient.Package.Manifest
import FlowClient.Yaml.Draft

/-!
The configuration of a project, a YAML file beside its document.
-/

namespace FlowClient

structure Config where
  input : String := "swagger.yaml"
  output : String := "generated"
  package : ManifestOptions := {}
  basePath : Option String := none
  baseUrl : Option String := none
  /-- An output directory that is there already is removed. -/
  force : Bool := false
deriving DecidableEq, Repr, Inhabited

inductive ConfigError
  | unreadable (why : FileError)
  | malformed
deriving DecidableEq, Repr

namespace Config

def overrides (c : Config) : Overrides := ⟨c.basePath, c.baseUrl⟩

def packageRecord : Record ManifestOptions where
  name := "PackageConfig"
  blank := {}
  fields := [
    .maybe "name" Draft.text fun v p => { p with name := v },
    .maybe "version" Draft.text fun v p => { p with version := v },
    .maybe "description" Draft.text fun v p => { p with description := v }]

def record : Record Config where
  name := "Config"
  blank := {}
  fields := [
    .of "input" .defaulted Draft.text fun v c => { c with input := v },
    .of "output" .defaulted Draft.text fun v c => { c with output := v },
    .of "package" .defaulted packageRecord.read fun v c => { c with package := v },
    .maybe "base_path" Draft.text fun v c => { c with basePath := v },
    .maybe "base_url" Draft.text fun v c => { c with baseUrl := v },
    .of "force" .defaulted Draft.flag fun v c => { c with force := v }]

def ofText (text : String) : Except ConfigError Config :=
  (Yaml.read record.read text).mapError fun _ => .malformed

def fileName : String := ".swag2js.yaml"

def initialText : String :=
  "# swag2js configuration\n" ++
  "input: swagger.yaml\n" ++
  "output: generated\n" ++
  "\n" ++
  "package: \x7b\x7d\n" ++
  "  # name: my-api-client        # defaults to the slugified info.title\n" ++
  "  # version: 1.0.0             # defaults to info.version\n" ++
  "  # description: Generated API client\n" ++
  "\n" ++
  "# base_path: /api/v2           # overrides basePath from the document\n" ++
  "# base_url: https://api.example.com   # overrides schemes[0]://host\n" ++
  "force: false\n"

/-- The configuration under a path; none where nothing is there. -/
def load {m : Type → Type} [Monad m] [FileSystem m] (path : String) :
    m (Except ConfigError (Option Config)) := do
  if !(← FileSystem.exists? path) then return .ok none
  match ← FileSystem.read path with
  | .error why => return .error (.unreadable why)
  | .ok text => return some <$> ofText text

end Config

end FlowClient
