import FlowClient.FileSystem.Basic

/-!
A tree of files without links, as a value, and the world that a command changes: such a tree and the
texts that have gone to the two streams.
-/

namespace FlowClient

/-- The names from the root to a file or a directory. -/
abbrev Trail := List String

inductive Entry
  | directory
  | file (content : String)
deriving DecidableEq, Repr

def Entry.kind : Entry → FileKind
  | .directory => .directory
  | .file _ => .file

/-- Files and directories by their trails, and the directory that relative paths start from. The
root is always there. -/
structure FileTree where
  entries : List (Trail × Entry) := []
  start : Trail := []
deriving DecidableEq, Repr

namespace FileTree

def get? (t : FileTree) (trail : Trail) : Option Entry :=
  if trail = [] then some .directory else t.entries.lookup trail

def insert (t : FileTree) (trail : Trail) (e : Entry) : FileTree :=
  { t with entries := (trail, e) :: t.entries.filter (·.1 != trail) }

def clear (t : FileTree) (trail : Trail) : FileTree :=
  { t with entries := t.entries.filter fun e => e.1 == trail || !trail.isPrefixOf e.1 }

def erase (t : FileTree) (trail : Trail) : FileTree :=
  { t with entries := t.entries.filter (·.1 != trail) }

/-- How many bytes a name may take. -/
def maxName : Nat := 255

def maxPath : Nat := 4095

/-- The trail that a name leads to from another one, which must be a directory. -/
def step (t : FileTree) (trail : Trail) (name : String) : Except FileError Trail :=
  match t.get? trail with
  | none => .error .notFound
  | some (.file _) => .error .notDirectory
  | some .directory =>
    if Path.isIdle name then .ok trail
    else if name == ".." then .ok trail.dropLast
    else if maxName < name.utf8ByteSize then .error .nameTooLong
    else .ok (trail ++ [name])

/-- The trail that names lead to. Nothing need stand there, but the way must be there. -/
def walk (t : FileTree) (trail : Trail) : List String → Except FileError Trail
  | [] => .ok trail
  | name :: names => do t.walk (← t.step trail name) names

def origin (t : FileTree) (path : String) : Trail := if Path.isAbsolute path then [] else t.start

/-- The trail that a path leads to. The way back from the start is open even where the start has been
removed. -/
def locate (t : FileTree) (path : String) : Except FileError Trail :=
  if path.toList.contains '\x00' then .error .nulInName
  else if path == "" then .error .notFound
  else if maxPath < path.utf8ByteSize then .error .nameTooLong
  else t.walk ((Path.back path).foldl Path.follow (t.origin path)) (Path.ahead path)

/-- What a path leads to from here, where it is at this trail. At the end of the way back there is a
directory, even where it has been removed. -/
def seen? (t : FileTree) (path : String) (trail : Trail) : Option Entry :=
  match t.get? trail with
  | some e => some e
  | none => if (Path.ahead path).isEmpty then some .directory else none

def kind? (t : FileTree) (path : String) : Option FileKind :=
  match t.locate path with
  | .ok trail => (t.seen? path trail).map Entry.kind
  | .error _ => none

def read (t : FileTree) (path : String) : Except FileError String := do
  match t.seen? path (← t.locate path) with
  | none => .error .notFound
  | some .directory => .error .isDirectory
  | some (.file content) => .ok content

def write (t : FileTree) (path content : String) : Except FileError FileTree := do
  let trail ← t.locate path
  match t.seen? path trail with
  | some .directory => .error .isDirectory
  | _ => .ok (t.insert trail (.file content))

def withoutSlash (path : String) : String :=
  if path.toList.all (· == '/') then path
  else String.ofList (path.toList.reverse.dropWhile (· == '/')).reverse

def makeDirectory (t : FileTree) (path : String) : Except FileError FileTree :=
  if maxPath < path.utf8ByteSize then .error .nameTooLong
  else do
    let trail ← t.locate (withoutSlash path)
    match t.seen? path trail with
    | some _ => .error .alreadyExists
    | none => .ok (t.insert trail .directory)

/-- Whether an emptied directory is removed by its path, whose last name must be one of its own. It is
left, and that is no error, where the way to it went through what was in it. -/
def removal (t : FileTree) (path : String) : Except FileError Bool :=
  match t.locate path with
  | .error .notFound => .ok false
  | .error e => .error e
  | .ok _ =>
    match (Path.names (withoutSlash path)).getLastD "" with
    | "" => .error .busy
    | "." => .error .invalidArgument
    | ".." => .error .notEmpty
    | _ => .ok true

def removeDirectory (t : FileTree) (path : String) : FileTree × Except FileError Unit :=
  match t.locate path with
  | .error e => (t, .error e)
  | .ok trail =>
    match t.seen? path trail with
    | none => (t, .error .notFound)
    | some (.file _) => (t, .error .notDirectory)
    | some .directory =>
      let emptied := t.clear trail
      match emptied.removal path with
      | .error e => (emptied, .error e)
      | .ok removed => (if removed then emptied.erase trail else emptied, .ok ())

end FileTree

structure World where
  tree : FileTree
  printed : String := ""
  noted : String := ""
deriving DecidableEq, Repr

namespace World

def update (change : FileTree → Except FileError FileTree) : StateM World (Except FileError Unit) := do
  let w ← get
  match change w.tree with
  | .ok tree => do
    set { w with tree }
    return .ok ()
  | .error e => return .error e

instance : FileSystem (StateM World) where
  kind? path := return (← get).tree.kind? path
  read path := return (← get).tree.read path
  write path content := update (·.write path content)
  makeDirectory path := update (·.makeDirectory path)
  removeDirectory path := fun w =>
    let (tree, result) := w.tree.removeDirectory path
    (result, { w with tree })

instance : Console (StateM World) where
  print text := modify fun w => { w with printed := w.printed ++ text }
  note text := modify fun w => { w with noted := w.noted ++ text }

end World

end FlowClient
