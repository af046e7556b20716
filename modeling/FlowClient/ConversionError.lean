import FlowClient.Document.Text

/-!
Why a document cannot be converted.
-/

namespace FlowClient

inductive ConversionError
  | unreadable (why : DocumentError)
  | unresolvedParameter (ref : String)
  | invalidReference (ref : String)
  /-- Several operations have one identifier; each such identifier once. -/
  | duplicateIdentifiers (identifiers : List String)
  /-- The placeholders of a path are not the required path parameters; both sorted. -/
  | placeholderMismatch (operation url : String) (used provided : List String)
  | reservedDefinition (name : String)
  /-- A composition leads back to itself through a property. -/
  | endlessComposition
deriving DecidableEq, Repr

namespace ConversionError

def reason : ConversionError → String
  | unreadable why => why.message
  | unresolvedParameter ref => "parameter reference target not found: " ++ ref
  | invalidReference ref => "invalid reference format: " ++ ref
  | duplicateIdentifiers identifiers =>
    "the document contains duplicate operation identifiers for different endpoints: " ++
      ", ".intercalate identifiers
  | placeholderMismatch operation url used provided =>
    "operation " ++ operation ++ " has URL " ++ url ++ " with placeholders " ++
      Text.quotedList used ++ ", but declares required path parameters " ++
      Text.quotedList provided
  | reservedDefinition name =>
    "definition " ++ name ++ " would overwrite the runtime type types/" ++ name ++ ".js"
  | endlessComposition => "a composition of schemas contains itself"

/-- The whole message. Errors of reading and of references name their stage first. -/
def message (e : ConversionError) : String :=
  match e with
  | unreadable _ => "parse error: " ++ e.reason
  | unresolvedParameter _ => "resolve error: " ++ e.reason
  | invalidReference _ => "resolve error: " ++ e.reason
  | _ => e.reason

def chain (e : ConversionError) : List String :=
  if e.message = e.reason then [e.message] else [e.message, e.reason]

end ConversionError

end FlowClient
