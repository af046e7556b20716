import FlowClient.Command.Arguments
import FlowClient.Config

/-!
What a command line asks for.
-/

namespace FlowClient

inductive SummaryFormat
  | yaml
  | json
deriving DecidableEq, Repr

inductive Shell
  | bash
  | elvish
  | fish
  | powershell
  | zsh
deriving DecidableEq, Repr

/-- What a command line sets for a generation; each of these goes before the configuration. -/
structure GenerateFlags where
  input : Option String := none
  output : Option String := none
  name : Option String := none
  version : Option String := none
  basePath : Option String := none
  baseUrl : Option String := none
  force : Bool := false
deriving DecidableEq, Repr

def GenerateFlags.apply (f : GenerateFlags) (c : Config) : Config where
  input := f.input.getD c.input
  output := f.output.getD c.output
  package := { c.package with name := f.name.or c.package.name,
                              version := f.version.or c.package.version }
  basePath := f.basePath.or c.basePath
  baseUrl := f.baseUrl.or c.baseUrl
  force := c.force || f.force

inductive Invocation
  | generate (flags : GenerateFlags)
  | validate (input : String)
  | inspect (input : String) (format : SummaryFormat)
  | init (force : Bool)
  | completions (shell : Shell)
  | version
  | help
deriving DecidableEq, Repr

namespace SummaryFormat

def names : List (String × SummaryFormat) := [("yaml", yaml), ("json", json)]

end SummaryFormat

namespace Shell

def names : List (String × Shell) :=
  [("bash", bash), ("elvish", elvish), ("fish", fish), ("powershell", powershell), ("zsh", zsh)]

end Shell

namespace Invocation

def inputSwitch : Switch := ⟨"input", some 'i', true, (· != "")⟩

def generateSwitches : List Switch := [
  inputSwitch,
  ⟨"output", some 'o', true, (· != "")⟩,
  ⟨"name", some 'n', true, fun _ => true⟩,
  ⟨"package-version", some 'v', true, fun _ => true⟩,
  ⟨"base-path", some 'b', true, fun _ => true⟩,
  ⟨"base-url", none, true, fun _ => true⟩,
  ⟨"force", some 'f', false, fun _ => true⟩]

def formatSwitch : Switch := ⟨"format", none, true, fun v => (SummaryFormat.names.lookup v).isSome⟩

def forceSwitch : Switch := { word := "force" }

def orHelp (a : Arguments) (invocation : Option Invocation) : Option Invocation :=
  if a.help then some .help else invocation

def generate? (arguments : List String) : Option Invocation := do
  let a ← Arguments.ofList? generateSwitches 0 arguments
  orHelp a (some (.generate {
    input := a.value? "input"
    output := a.value? "output"
    name := a.value? "name"
    version := a.value? "package-version"
    basePath := a.value? "base-path"
    baseUrl := a.value? "base-url"
    force := a.has "force" }))

def validate? (arguments : List String) : Option Invocation := do
  let a ← Arguments.ofList? [inputSwitch] 0 arguments
  orHelp a ((a.value? "input").map .validate)

def inspect? (arguments : List String) : Option Invocation := do
  let a ← Arguments.ofList? [inputSwitch, formatSwitch] 0 arguments
  let format := ((a.value? "format").bind (List.lookup · SummaryFormat.names)).getD .yaml
  orHelp a ((a.value? "input").map (.inspect · format))

def init? (arguments : List String) : Option Invocation := do
  let a ← Arguments.ofList? [forceSwitch] 0 arguments
  orHelp a (some (.init (a.has "force")))

def completions? (arguments : List String) : Option Invocation := do
  let a ← Arguments.ofList? [] 1 arguments
  orHelp a ((a.words.head?.bind (List.lookup · Shell.names)).map .completions)

def ofArguments? : List String → Option Invocation
  | [] => none
  | command :: arguments =>
    match command with
    | "generate" => generate? arguments
    | "validate" => validate? arguments
    | "inspect" => inspect? arguments
    | "init" => init? arguments
    | "completions" => completions? arguments
    | "help" => some .help
    | "--help" => some .help
    | "--version" => some .version
    | _ =>
      match command.toList with
      | '-' :: 'V' :: _ => some .version
      | '-' :: 'h' :: _ => some .help
      | _ => none

end Invocation

end FlowClient
