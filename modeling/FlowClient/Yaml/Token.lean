/-!
The tokens of a YAML text.
-/

namespace FlowClient.Yaml

/-- A token. Blocks are the parts that indentation marks off. -/
inductive Token
  | version (major minor : Nat)
  | handle (name start : String)
  | documentStart
  | documentEnd
  | blockList
  | blockMap
  | blockEnd
  | listStart
  | listEnd
  | mapStart
  | mapEnd
  | item
  | comma
  | key
  | value
  | alias (name : String)
  | anchor (name : String)
  /-- A tag by its handle, empty where the tag is written out, and the rest. -/
  | tag (handle rest : String)
  /-- A text, plain where neither quotes nor a block style mark it. -/
  | scalar (text : String) (plain : Bool)
deriving DecidableEq, Repr

end FlowClient.Yaml
