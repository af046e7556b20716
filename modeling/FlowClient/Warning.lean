/-!
Findings that do not stop a conversion.
-/

namespace FlowClient

inductive Warning
  | caseCollision (name existing : String)
  | documentationIncomplete (operation : String)
  /-- Of several schemes only the first is used. -/
  | multipleSchemes (used : String) (declared : List String)
deriving DecidableEq, Repr

def Warning.message : Warning → String
  | .caseCollision name existing =>
    "definitions " ++ existing ++ " and " ++ name ++ " only differ in case; " ++
      "their files will overwrite each other on case-insensitive file systems"
  | .documentationIncomplete operation => "summary and description missing for " ++ operation
  | .multipleSchemes used declared =>
    "multiple schemes detected (" ++ ", ".intercalate declared ++
      ") but not supported, using: " ++ used

end FlowClient
