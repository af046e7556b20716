/-!
The arguments of a command: switches by a letter or by a word, with a value or without, and plain
words. Each switch may be given once.
-/

namespace FlowClient

structure Switch where
  word : String
  letter : Option Char := none
  takesValue : Bool := false
  allows : String → Bool := fun _ => true

/-- What the arguments give: the switches by their words, with their values, and the plain words. A
call for help ends the arguments. -/
structure Arguments where
  switches : List (String × String) := []
  words : List String := []
  help : Bool := false
deriving DecidableEq, Repr

namespace Arguments

def has (a : Arguments) (word : String) : Bool := (a.switches.lookup word).isSome

def value? (a : Arguments) (word : String) : Option String := a.switches.lookup word

def add? (a : Arguments) (s : Switch) (value : String) : Option Arguments :=
  if a.has s.word || !s.allows value then none
  else some { a with switches := a.switches ++ [(s.word, value)] }

/-- The argument cannot be a value: it starts with a hyphen and goes on. -/
def isHyphened (argument : String) : Bool :=
  match argument.toList with
  | '-' :: _ :: _ => true
  | _ => false

inductive Step
  | done (a : Arguments)
  | waits (a : Arguments) (s : Switch)
  | help

def longStep? (switches : List Switch) (a : Arguments) (cs : List Char) : Option Step := do
  let word := String.ofList (cs.takeWhile (· != '='))
  let attached : Option String := match cs.dropWhile (· != '=') with
    | _ :: value => some (String.ofList value)
    | [] => none
  if word == "help" then if attached.isNone then return .help else none
  else
    let s ← switches.find? (·.word == word)
    match attached with
    | some value => if s.takesValue then return .done (← a.add? s value) else none
    | none => if s.takesValue then return .waits a s else return .done (← a.add? s "")

/-- The switches of several letters. After a letter that takes a value, the rest is its value. -/
def shortSteps? (switches : List Switch) (a : Arguments) : List Char → Option Step
  | [] => some (.done a)
  | c :: rest =>
    if c == 'h' then some .help
    else match switches.find? (·.letter == some c) with
      | none => none
      | some s =>
        if !s.takesValue then do shortSteps? switches (← a.add? s "") rest
        else match rest with
          | [] => some (.waits a s)
          | '=' :: value => (a.add? s (String.ofList value)).map .done
          | value => (a.add? s (String.ofList value)).map .done

def read? (switches : List Switch) (a : Arguments) : List String → Option Arguments
  | [] => some a
  | argument :: rest =>
    let step := match argument.toList with
      | '-' :: '-' :: cs => if cs.isEmpty then none else longStep? switches a cs
      | '-' :: c :: cs => shortSteps? switches a (c :: cs)
      | _ => some (.done { a with words := a.words ++ [argument] })
    if argument == "--" then some { a with words := a.words ++ rest }
    else match step with
      | none => none
      | some .help => some { a with help := true }
      | some (.done a) => read? switches a rest
      | some (.waits a s) =>
        match rest with
        | [] => none
        | value :: rest =>
          if isHyphened value then none
          else match a.add? s value with
            | some a => read? switches a rest
            | none => none

def ofList? (switches : List Switch) (maxWords : Nat) (arguments : List String) : Option Arguments := do
  let a ← read? switches {} arguments
  if a.words.length ≤ maxWords then return a else none

end Arguments

end FlowClient
