import FlowClient.Client
import FlowClient.Json.Printer
import FlowClient.Package.Basic

/-!
The manifest of a package, `package.json`.
-/

namespace FlowClient

structure ManifestOptions where
  name : Option String := none
  version : Option String := none
  description : Option String := none
deriving DecidableEq, Repr, Inhabited

/-- The slug of a title, where `slug` holds its characters so far, last one first, and `dashed` tells
whether a dash was the last thing asked for. -/
def slugFrom (slug : List Char) (dashed : Bool) : List Char → List Char
  | [] => slug
  | c :: rest =>
    if Text.isAlphanumeric c then slugFrom (c.toLower :: slug) false rest
    else if !dashed && !slug.isEmpty then slugFrom ('-' :: slug) true rest
    else slugFrom slug true rest

/-- A title in kebab case: its letters and numerals, with ASCII capitals in lowercase and a dash for
each gap between them. -/
def slugChars (title : List Char) : List Char :=
  ((slugFrom [] false title).dropWhile (· = '-')).reverse

def slug (title : String) : String :=
  let chars := slugChars title.toList
  if chars.isEmpty then "api-client" else String.ofList chars

def defaultVersion : String := "0.1.0"

def defaultDescription : String := "API client generated from a Swagger document"

/-- The manifest as a value, with its members in ascending order. -/
def manifest (info : Info) (options : ManifestOptions) : Json := .obj [
  ("dependencies", .obj []),
  ("description", .str ((options.description.or info.description).getD defaultDescription)),
  ("license", .str "MIT"),
  ("main", .str "index.js"),
  ("name", .str (options.name.getD (slug info.title))),
  ("version", .str (options.version.getD
    (if info.version.isEmpty then defaultVersion else info.version)))]

def manifestFile (info : Info) (options : ManifestOptions) : File :=
  ⟨"package.json", (manifest info options).pretty ++ "\n"⟩

end FlowClient
