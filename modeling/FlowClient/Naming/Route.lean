import FlowClient.Naming.Identifier
import FlowClient.Text.Lowercase

/-!
Names for operations that declare none, made of the method and the path.
-/

namespace FlowClient

def pathPieces (path : String) : List String :=
  ((path.toList.splitOn '/').filter fun piece => !piece.isEmpty).map String.ofList

def isParameterPiece (piece : String) : Bool :=
  piece.toList.head? = some '{' && piece.toList.getLast? = some '}'

/-- What the name starts with. A request for a single thing gets it, a request for all lists them. -/
def routeVerb (method : String) (single : Bool) : String :=
  match Text.uppercase method with
  | "GET" => if single then "get" else "list"
  | "POST" => "create"
  | "PUT" => "update"
  | "DELETE" => "delete"
  | "PATCH" => "patch"
  | "OPTIONS" => "options"
  | _ => "call"

def endsIn (s ending : String) : Bool :=
  ending.toList.isSuffixOf s.toList

def dropLast (s : String) (count : Nat) : String :=
  String.ofList (s.toList.take (s.toList.length - count))

def singular (word : String) : String :=
  if endsIn word "ies" && 3 < word.utf8ByteSize then dropLast word 3 ++ "y"
  else if endsIn word "ses" || endsIn word "xes" || endsIn word "zes" then dropLast word 2
  else if endsIn word "s" && !endsIn word "ss" && 1 < word.utf8ByteSize then dropLast word 1
  else word

/-- The name of the things that a path speaks of: its pieces other than parameters, each in the given casing and the
last one in the singular where a parameter ends the path. -/
def routeSubject (casing : String → String) (pieces : List String) (single : Bool) : String :=
  let named := pieces.filter fun piece => !isParameterPiece piece
  let pieces := if single then named.dropLast ++ named.getLast?.toList.map singular else named
  String.join (pieces.map casing)

def routeNameIn (casing : String → String) (method path : String) : String :=
  let pieces := pathPieces path
  let single := pieces.getLast?.any isParameterPiece
  routeVerb method single ++ routeSubject casing pieces single

def routeName (method path : String) : String := routeNameIn Text.pascalCase method path

end FlowClient
