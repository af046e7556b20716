import FlowClient.Flow.Printer
import FlowClient.Package.Comment
import FlowClient.Package.Manifest
import FlowClient.Package.Fixed

/-!
The files of a package: the fixed runtime, a file for each declared type and for each request function,
the index, and the manifest.
-/

namespace FlowClient

def moduleHead : String := "// @flow\n\n"

def onLines (texts : List String) : String := String.join (texts.map (· ++ "\n"))

def siblingSource (name : String) : String := "./" ++ name

def requestSource (name : String) : String := "./src/" ++ name

def declaredSource (name : String) : String := "./types/" ++ name

def siblingImport (name : String) : String :=
  "import type \x7b " ++ name ++ " \x7d from '" ++ siblingSource name ++ "';"

def Declaration.file (d : Declaration) : File where
  path := "types/" ++ d.name ++ ".js"
  content := moduleHead ++ onLines (d.imports.map siblingImport) ++
    (if d.imports.isEmpty then "" else "\n") ++
    "export type " ++ d.name ++ " = " ++ d.type.print ++ ";\n"

def RequestFunction.file (r : RequestFunction) : File where
  path := "src/" ++ r.name ++ ".js"
  content := moduleHead ++ onLines (r.module.imports.map Import.print) ++ "\n" ++
    String.join (r.module.aliases.map fun a => a.print ++ "\n\n") ++
    docComment r.summary r.description ++
    "export default " ++ r.module.function.print ++ "\n"

/-- An export of what another module has: its function, or the type that it declares. -/
structure Export where
  kind : ImportKind
  name : String
  source : String
deriving DecidableEq, Repr

def Export.print (e : Export) : String :=
  let start := match e.kind with
    | .value => "export \x7b default as "
    | .type => "export type \x7b "
  start ++ e.name ++ " \x7d from '" ++ e.source ++ "';"

/-- What the index of a client exports: every request function, and every declared type. -/
def Client.exports (c : Client) : List Export :=
  (c.requests.map fun r => ⟨.value, r.name, requestSource r.name⟩) ++
    c.declarations.map fun d => ⟨.type, d.name, declaredSource d.name⟩

def indexFile (exports : List Export) : File where
  path := "index.js"
  content :=
    let functions := exports.filter (·.kind = .value)
    let types := exports.filter (·.kind = .type)
    moduleHead ++ onLines (functions.map Export.print) ++
      (if types.isEmpty then "" else "\n" ++ onLines (types.map Export.print))

def Client.index (c : Client) : File := indexFile c.exports

/-- The files of the package for a client; a manifest is among them where options for it are given. -/
def Client.files (c : Client) (options : Option ManifestOptions) : List File :=
  runtimeFiles ++ c.declarations.map Declaration.file ++ c.requests.map RequestFunction.file ++
    [c.index] ++
    (options.map (manifestFile c.info)).toList

end FlowClient
