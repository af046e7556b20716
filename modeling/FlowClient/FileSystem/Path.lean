/-!
Paths as texts: names between slashes, where empty names and single points stand for nothing.
-/

namespace FlowClient.Path

def splitSlashes : List Char → List (List Char)
  | [] => [[]]
  | c :: rest =>
    if c = '/' then [] :: splitSlashes rest
    else match splitSlashes rest with
      | [] => [[c]]
      | name :: names => (c :: name) :: names

/-- The names of a path, empty ones included. -/
def names (path : String) : List String := (splitSlashes path.toList).map String.ofList

def isAbsolute (path : String) : Bool := path.toList.head? == some '/'

def isIdle (name : String) : Bool := name == "" || name == "."

def isBack (name : String) : Bool := isIdle name || name == ".."

/-- The names that a path starts with before one leads on. -/
def back (path : String) : List String := (names path).takeWhile isBack

/-- The names of a path from the first one that leads on. -/
def ahead (path : String) : List String := (names path).dropWhile isBack

def follow (trail : List String) (name : String) : List String :=
  if isIdle name then trail else if name == ".." then trail.dropLast else trail ++ [name]

/-- Names from the last to the first, without those at the end of the path that lead nowhere. A point
that starts a relative path is kept. -/
def trimmed (absolute : Bool) : List String → List String
  | [] => []
  | [name] => if name == "" || (absolute && isIdle name) then [] else [name]
  | name :: rest => if isIdle name then trimmed absolute rest else name :: rest

def backwards (path : String) : List String :=
  let absolute := isAbsolute path
  trimmed absolute (if absolute then (names path).tail else names path).reverse

def ofBackwards (absolute : Bool) (names : List String) : String :=
  (if absolute then "/" else "") ++ "/".intercalate names.reverse

def parent? (path : String) : Option String :=
  match backwards path with
  | [] => none
  | _ :: rest => some (ofBackwards (isAbsolute path) (trimmed (isAbsolute path) rest))

/-- The path and those of the directories around it, where `fuel` exceeds their number. -/
def ancestorsWithin (fuel : Nat) (path : String) : List String :=
  match fuel with
  | 0 => []
  | fuel + 1 => path :: match parent? path with
    | some parent => ancestorsWithin fuel parent
    | none => []

def ancestors (path : String) : List String := ancestorsWithin (path.length + 2) path

def join (base path : String) : String :=
  if isAbsolute path || base == "" then path
  else if base.toList.getLast? == some '/' then base ++ path
  else base ++ "/" ++ path

/-- What stands after the last point of a file's name, unless the name starts with it. -/
def extension? (path : String) : Option String :=
  match backwards path with
  | [] => none
  | name :: _ =>
    if name == ".." then none
    else
      let cs := name.toList.reverse
      let after := cs.takeWhile (· != '.')
      if after.length + 1 < cs.length then some (String.ofList after.reverse) else none

end FlowClient.Path
