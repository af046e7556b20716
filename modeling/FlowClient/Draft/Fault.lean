import FlowClient.Json.Number
import FlowClient.Text.Quoted

/-!
Why a document cannot be read: its text is malformed or ends early, or a value is not of the kind that
is wanted at its place.
-/

namespace FlowClient

inductive Found
  | null
  | flag (value : Bool)
  | int (value : Int)
  | float (value : Binary64)
  | text (value : String)
  | sequence
  | mapping
deriving DecidableEq, Repr

inductive Mismatch
  | kind (found : Found) (expected : String)
  | missingField (name : String)
  | duplicateField (name : String)
  | unknownVariant (name : String) (variants : List String)
  /-- A list that stands for the fields of a record is too short or too long. -/
  | length (count : Nat) (expected : String)
  | noAlternative (type : String)
deriving DecidableEq, Repr

inductive Fault
  | malformed
  | truncated
  | mismatch (why : Mismatch)
  /-- A value has a type of its own, or one that no value here can have. -/
  | foreign
deriving DecidableEq, Repr

def Found.message : Found → String
  | .null => "null"
  | .flag true => "boolean `true`"
  | .flag false => "boolean `false`"
  | .int i => "integer `" ++ Json.intText i ++ "`"
  | .float x => "floating point `" ++ Json.floatText x ++ "`"
  | .text s => "string " ++ Text.quoted s
  | .sequence => "sequence"
  | .mapping => "map"

def variantsMessage (variants : List String) : String :=
  ", ".intercalate (variants.map fun v => "`" ++ v ++ "`")

def Mismatch.message : Mismatch → String
  | .kind found expected => "invalid type: " ++ found.message ++ ", expected " ++ expected
  | .missingField name => "missing field `" ++ name ++ "`"
  | .duplicateField name => "duplicate field `" ++ name ++ "`"
  | .unknownVariant name variants =>
    "unknown variant `" ++ name ++ "`, expected one of " ++ variantsMessage variants
  | .length count expected =>
    "invalid length " ++ Json.intText count ++ ", expected " ++ expected
  | .noAlternative type => "data did not match any variant of untagged enum " ++ type

end FlowClient
