import FlowClient.FileSystem.Path

/-!
What a command needs of the machine: files and directories under paths, and two streams for texts.
-/

namespace FlowClient

inductive FileError
  | notFound
  | busy
  | alreadyExists
  | notDirectory
  | isDirectory
  | invalidArgument
  | nameTooLong
  | notEmpty
  | nulInName
  | other (message : String)
deriving DecidableEq, Repr

def FileError.message : FileError → String
  | notFound => "No such file or directory (os error 2)"
  | busy => "Device or resource busy (os error 16)"
  | alreadyExists => "File exists (os error 17)"
  | notDirectory => "Not a directory (os error 20)"
  | isDirectory => "Is a directory (os error 21)"
  | invalidArgument => "Invalid argument (os error 22)"
  | nameTooLong => "File name too long (os error 36)"
  | notEmpty => "Directory not empty (os error 39)"
  | nulInName => "file name contained an unexpected NUL byte"
  | other message => message

inductive FileKind
  | directory
  | file
deriving DecidableEq, Repr

class FileSystem (m : Type → Type) where
  kind? : String → m (Option FileKind)
  read : String → m (Except FileError String)
  write : String → String → m (Except FileError Unit)
  makeDirectory : String → m (Except FileError Unit)
  removeDirectory : String → m (Except FileError Unit)

class Console (m : Type → Type) where
  print : String → m Unit
  note : String → m Unit

namespace FileSystem

variable {m : Type → Type} [Monad m] [FileSystem m]

def exists? (path : String) : m Bool := return (← kind? path).isSome

def isDirectory? (path : String) : m Bool := return (← kind? path) == some .directory

/-- Makes the first of the directories, where the others are those around it, from the inside out. A
directory that is there already will do. -/
def makeFirst : List String → m (Except FileError Unit)
  | [] => return .error (.other "failed to create whole tree")
  | path :: around => do
    if path == "" then return .ok ()
    match ← makeDirectory path with
    | .ok () => return .ok ()
    | .error .notFound =>
      match ← makeFirst around with
      | .error e => return .error e
      | .ok () => orPresent path (← makeDirectory path)
    | .error e => orPresent path (.error e)
where
  orPresent (path : String) : Except FileError Unit → m (Except FileError Unit)
    | .ok () => return .ok ()
    | .error e => return if ← isDirectory? path then .ok () else .error e

def makeDirectories (path : String) : m (Except FileError Unit) := makeFirst (Path.ancestors path)

end FileSystem

end FlowClient
