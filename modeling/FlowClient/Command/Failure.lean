import FlowClient.Config
import FlowClient.ConversionError

/-!
Why a command fails, and what it reports.
-/

namespace FlowClient

inductive Failure
  | configuration (why : ConfigError)
  | unreadable (path : String) (why : FileError)
  | unknownFormat (path : String)
  | document (why : DocumentError)
  | conversion (why : ConversionError)
  | conversionOf (path : String) (why : ConversionError)
  | present (path : String)
  | notRemoved (path : String) (why : FileError)
  | outputNotMade (path : String) (why : FileError)
  | directoryNotMade (path : String) (why : FileError)
  | notWritten (path : String) (why : FileError)
  | file (why : FileError)
deriving DecidableEq, Repr

def ConfigError.chain : ConfigError → List String
  | unreadable why =>
    ["failed to read config " ++ Config.fileName ++ ": " ++ why.message, why.message]
  | malformed => ["failed to parse config " ++ Config.fileName]

def DocumentError.chain (e : DocumentError) : List String :=
  e.message :: match e with
    | json fault => [fault.message]
    | invalidPathItem _ why => [why.message]
    | _ => []

namespace Failure

/-- The message of the failure and those of its causes, the outermost first. -/
def chain : Failure → List String
  | configuration why => why.chain
  | unreadable path why => ["failed to read " ++ path, why.message]
  | unknownFormat path =>
    ["cannot tell the format of " ++ path ++ ": expected a .json, .yaml or .yml file"]
  | document why => why.chain
  | conversion why => why.chain
  | conversionOf path why => ("failed to convert " ++ path) :: why.chain
  | present path => [path ++ " already exists. Use --force to overwrite."]
  | notRemoved path why => ["failed to remove " ++ path, why.message]
  | outputNotMade path why => ["failed to create output directory " ++ path, why.message]
  | directoryNotMade path why => ["failed to create directory " ++ path, why.message]
  | notWritten path why => ["failed to write " ++ path, why.message]
  | file why => [why.message]

def hang (width : Nat) (text : String) : String :=
  String.ofList (text.toList.flatMap fun c =>
    if c == '\n' then c :: List.replicate width ' ' else [c])

def causeLine (number : Option Nat) (cause : String) : String :=
  match number with
  | none => "\n    " ++ hang 4 cause
  | some n =>
    let digits := toString n
    "\n" ++ String.ofList (List.replicate (5 - digits.length) ' ') ++ digits ++ ": " ++ hang 7 cause

def causesText : List String → String
  | [] => ""
  | [cause] => "\n\nCaused by:" ++ causeLine none cause
  | causes =>
    "\n\nCaused by:" ++ String.join (causes.zipIdx.map fun (cause, n) => causeLine (some n) cause)

def report (f : Failure) : String :=
  match f.chain with
  | [] => "Error\n"
  | message :: causes => "Error: " ++ message ++ causesText causes ++ "\n"

end Failure

end FlowClient
