import FlowClient.Text.Words

/-!
Names in the generated modules: what can stand as a bare identifier, and how other names are mended.
-/

namespace FlowClient

def reservedWords : List String := [
  "break", "case", "catch", "class", "const", "continue", "debugger", "default", "delete", "do",
  "else", "export", "extends", "finally", "for", "function", "if", "import", "in", "instanceof",
  "new", "return", "super", "switch", "this", "throw", "try", "typeof", "var", "void", "while",
  "with", "yield", "enum", "implements", "interface", "let", "package", "private", "protected",
  "public", "static", "await", "abstract", "boolean", "byte", "char", "double", "final", "float",
  "goto", "int", "long", "native", "short", "synchronized", "throws", "transient", "volatile",
  "null", "true", "false"]

/-- Names that a generated function binds itself; its path parameters must not take them. -/
def generatedNames : List String := ["query", "data", "makeQuery", "makeFormData", "AjaxPipe"]

def isReserved (name : String) : Bool := reservedWords.contains name

def operationName (raw : String) : String :=
  String.ofList (raw.toList.map fun c => if c = ' ' || c = '.' then '_' else c)

def functionName (operation : String) : String :=
  if isReserved operation then operation ++ "_" else operation

def isIdentifierStart (c : Char) : Bool := Text.isLetter c || c = '_' || c = '$'

def isIdentifierPart (c : Char) : Bool := Text.isAlphanumeric c || c = '_' || c = '$'

def isIdentifier (name : String) : Bool :=
  match name.toList with
  | [] => false
  | c :: rest => isIdentifierStart c && rest.all isIdentifierPart

/-- The characters of a name with underscores for those that no identifier holds, and one in front of
a leading digit or of nothing. -/
def identifierChars (name : List Char) : List Char :=
  let mended := name.map fun c => if isIdentifierPart c then c else '_'
  match mended with
  | [] => ['_']
  | c :: rest => if c.isDigit then '_' :: c :: rest else c :: rest

def parameterIdentifier (name : String) : String :=
  let identifier := String.ofList (identifierChars name.toList)
  if isReserved identifier || generatedNames.contains identifier then identifier ++ "_"
  else identifier

def underscored (name : String) (count : Nat) : String :=
  name ++ String.ofList (List.replicate count '_')

/-- The name with the fewest underscores added that is not taken. Among one more candidates than there
are taken names, one is free. -/
def freshName (taken : List String) (name : String) : String :=
  let candidates := (List.range (taken.length + 1)).map (underscored name)
  (candidates.find? fun candidate => !taken.contains candidate).getD name

end FlowClient
