/-!
Generated files.
-/

namespace FlowClient

/-- A file by its path below the package's directory. -/
structure File where
  path : String
  content : String
deriving DecidableEq, Repr, Inhabited

end FlowClient
