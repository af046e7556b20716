import FlowClient.Command.Run

/-!
The command line of the program.
-/

namespace FlowClient

def FileError.ofSystem (e : IO.Error) : FileError :=
  match e with
  | .noFileOrDirectory _ _ _ => .notFound
  | .alreadyExists _ _ _ => .alreadyExists
  | .resourceExhausted _ _ _ => .other (toString e)
  | .inappropriateType _ code _ => if code == 21 then .isDirectory else .notDirectory
  | e => .other (toString e)

def attempt {α : Type} (action : IO α) : IO (Except FileError α) := do
  try
    return .ok (← action)
  catch e =>
    return .error (.ofSystem e)

/-- What stands under a path of the machine's file system. A directory can be opened but not read. -/
def machineKind? (path : String) : IO (Option FileKind) := do
  match ← attempt (IO.FS.Handle.mk path .read) with
  | .error _ => return none
  | .ok handle =>
    match ← attempt (handle.read 1) with
    | .ok _ => return some .file
    | .error _ => return some .directory

/-- Empties a directory and removes it by its path. It is left where the path goes through what was in it. -/
def emptyAndRemove (path : String) : IO Unit := do
  let directory ← IO.FS.realPath path
  for entry in ← directory.readDir do
    if ← entry.path.isDir then IO.FS.removeDirAll entry.path else IO.FS.removeFile entry.path
  try IO.FS.removeDir path
  catch
    | .noFileOrDirectory _ _ _ => return
    | e => throw e

instance : FileSystem IO where
  kind? := machineKind?
  read path := do
    if (← machineKind? path) == some .directory then return .error .isDirectory
    attempt (IO.FS.readFile path)
  write path content := do
    if (← machineKind? path) == some .directory then return .error .isDirectory
    attempt (IO.FS.writeFile path content)
  makeDirectory path := attempt (IO.FS.createDir path)
  removeDirectory path := do
    if (← machineKind? path) == some .file then return .error .notDirectory
    attempt (emptyAndRemove path)

instance : Console IO where
  print := IO.print
  note := IO.eprint

end FlowClient

def main (arguments : List String) : IO UInt32 := do
  return UInt32.ofNat (← FlowClient.Command.run arguments)
