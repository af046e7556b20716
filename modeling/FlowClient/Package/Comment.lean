import FlowClient.Text.Space

/-!
Documentation as block comments. Free text cannot close the comment, and each of its lines continues it.
-/

namespace FlowClient

def trimEnd (cs : List Char) : List Char := (cs.reverse.dropWhile Text.isSpace).reverse

def trim (cs : List Char) : List Char := trimEnd (cs.dropWhile Text.isSpace)

/-- A backslash between each star and the slash after it. -/
def breakClosers : List Char → List Char
  | [] => []
  | '*' :: '/' :: rest => '*' :: '\\' :: '/' :: breakClosers rest
  | c :: rest => c :: breakClosers rest

/-- The lines of a text, where `line` holds the open line, last character first. -/
def linesFrom (line : List Char) : List Char → List (List Char)
  | [] => [line.reverse]
  | c :: rest => if c = '\n' then line.reverse :: linesFrom [] rest else linesFrom (c :: line) rest

def continuation : List Char := ['\n', ' ', '*', ' ']

def commentChars (cs : List Char) : List Char :=
  continuation.intercalate ((linesFrom [] (breakClosers (trim cs))).map trimEnd)

def commentText (text : String) : String := String.ofList (commentChars text.toList)

def nonempty? (text : Option String) : Option String := text.filter fun t => !t.isEmpty

def docComment (summary description : Option String) : String :=
  match nonempty? summary, nonempty? description with
  | some s, some d => "/**\n * " ++ commentText s ++ "\n *\n * " ++ commentText d ++ "\n */\n"
  | some s, none => "/**\n * " ++ commentText s ++ "\n */\n"
  | none, some d => "/**\n * " ++ commentText d ++ "\n */\n"
  | none, none => ""

end FlowClient
