import FlowClient.Command.Failure
import FlowClient.Command.Invocation
import FlowClient.Command.Summary
import FlowClient.Package.Files
import FlowClient.Yaml.Printer

/-!
The commands: generate a package for a document, validate or inspect a document, start a project, and
write completions for a shell.
-/

namespace FlowClient

open FileSystem (exists? makeDirectories)

variable {m : Type → Type} [Monad m] [FileSystem m] [Console m]

abbrev CommandT (m : Type → Type) := ExceptT Failure m

namespace Command

def access {ε α : Type} (failure : ε → Failure) (result : m (Except ε α)) : CommandT m α :=
  ExceptT.mk do return (← result).mapError failure

def orFail {ε α : Type} (failure : ε → Failure) (result : Except ε α) : CommandT m α :=
  ExceptT.mk (pure (result.mapError failure))

def note (text : String) : CommandT m Unit := ExceptT.lift (Console.note (text ++ "\n"))

def print (text : String) : CommandT m Unit := ExceptT.lift (Console.print text)

def readDocument (path : String) : CommandT m Document := do
  let text ← access (.unreadable path) (FileSystem.read path)
  let extension := (Path.extension? path).getD ""
  if extension == "json" then orFail .document (Document.ofJsonText text)
  else if extension == "yaml" || extension == "yml" then orFail .document (Document.ofYamlText text)
  else throw (.unknownFormat path)

def loadClient (path : String) (overrides : Overrides) : CommandT m Client := do
  let d ← readDocument path
  orFail (.conversionOf path) (d.client overrides)

/-- Makes an empty directory for the output. One that is there is removed with all that is in it, if
that is wanted. -/
def prepareOutput (path : String) (force : Bool) : CommandT m Unit := do
  if ← ExceptT.lift (exists? path) then
    if force then access (.notRemoved path) (FileSystem.removeDirectory path)
    else throw (.present path)
  access (.outputNotMade path) (makeDirectories path)

def writeFile (base : String) (f : File) : CommandT m Unit := do
  let path := Path.join base f.path
  if let some parent := Path.parent? path then
    access (.directoryNotMade parent) (makeDirectories parent)
  access (.notWritten path) (FileSystem.write path f.content)

def generate (flags : GenerateFlags) : CommandT m Unit := do
  let found ← access .configuration (Config.load Config.fileName)
  let config := flags.apply (found.getD {})
  let client ← loadClient config.input config.overrides
  let files := client.files (some config.package)
  prepareOutput config.output config.force
  files.forM (writeFile config.output)
  note ("Generated " ++ toString files.length ++ " files for " ++ toString client.requests.length ++
    " operations in " ++ config.output)
  if !client.warnings.isEmpty then
    note (toString client.warnings.length ++ " warnings, see the log above")

def validate (path : String) : CommandT m Unit := do
  let d ← readDocument path
  note ("Valid Swagger " ++ d.swagger ++ " document: " ++ d.info.title)
  note ("  Version: " ++ d.info.version)
  note ("  Paths: " ++ toString (d.paths.countP fun entry => entry.2.item?.isSome))
  note ("  Definitions: " ++ toString d.definitions.length)
  let client ← orFail .conversion d.client
  note ("  Operations: " ++ toString client.requests.length)
  note ("  Warnings: " ++ toString client.warnings.length)
  client.warnings.forM fun w => note ("    - " ++ w.message)
  note "Validation successful."

def inspect (path : String) (format : SummaryFormat) : CommandT m Unit := do
  let client ← loadClient path {}
  match format with
  | .yaml => print client.summary.yaml
  | .json => print (client.summary.pretty ++ "\n")

def init (force : Bool) : CommandT m Unit := do
  if !force then
    if ← ExceptT.lift (exists? Config.fileName) then throw (.present Config.fileName)
  access .file (FileSystem.write Config.fileName Config.initialText)
  note ("Created " ++ Config.fileName)

def names : List String := ["generate", "validate", "inspect", "init", "completions", "help"]

def completionScript (shell : Shell) : String :=
  let words := " ".intercalate names
  match shell with
  | .bash => "complete -W '" ++ words ++ "' swag2js\n"
  | .elvish =>
    "set edit:completion:arg-completer[swag2js] = \x7b|@words| put " ++ words ++ " \x7d\n"
  | .fish => "complete -c swag2js -f -n __fish_use_subcommand -a '" ++ words ++ "'\n"
  | .powershell =>
    "Register-ArgumentCompleter -Native -CommandName swag2js -ScriptBlock \x7b -split '" ++ words ++
      "' \x7d\n"
  | .zsh => "#compdef swag2js\ncompadd " ++ words ++ "\n"

def versionText : String := "swag2js 0.1.0\n"

def usageText : String := "Usage: swag2js <" ++ "|".intercalate names ++ "> [options]\n"

def perform : Invocation → CommandT m Unit
  | .generate flags => generate flags
  | .validate input => validate input
  | .inspect input format => inspect input format
  | .init force => init force
  | .completions shell => print (completionScript shell)
  | .version => print versionText
  | .help => print usageText

/-- Does what a command line asks for; gives the exit code. -/
def run (arguments : List String) : m Nat := do
  match Invocation.ofArguments? arguments with
  | none => do
    Console.note usageText
    return 2
  | some invocation =>
    match ← (perform (m := m) invocation).run with
    | .ok () => return 0
    | .error failure => do
      Console.note failure.report
      return 1

end Command

end FlowClient
