/-!
Flow types.
-/

namespace FlowClient

structure Property (τ : Type) where
  name : String
  value : τ
  optional : Bool
deriving Repr

inductive FlowType
  | any
  | string
  | number
  | boolean
  | literal (text : String)
  | union (members : List FlowType)
  | array (element : FlowType)
  | generic (name : String) (args : List FlowType)
  | openObject
  | exact (properties : List (Property FlowType))
  | named (name : String)
deriving Inhabited, Repr

namespace FlowType

mutual

/-- The type with its named types renamed, each by the first pair for it. -/
def rename (renames : List (String × String)) : FlowType → FlowType
  | named name => named ((renames.lookup name).getD name)
  | union members => union (renameAll renames members)
  | array element => array (element.rename renames)
  | generic name args => generic name (renameAll renames args)
  | exact properties => exact (renameProperties renames properties)
  | type => type

def renameAll (renames : List (String × String)) : List FlowType → List FlowType
  | [] => []
  | type :: rest => type.rename renames :: renameAll renames rest

def renameProperties (renames : List (String × String)) :
    List (Property FlowType) → List (Property FlowType)
  | [] => []
  | ⟨name, value, optional⟩ :: rest =>
    ⟨name, value.rename renames, optional⟩ :: renameProperties renames rest

end

mutual

/-- The named types in a type, from left to right, with repeats. -/
def names : FlowType → List String
  | named name => [name]
  | union members => namesAll members
  | array element => element.names
  | generic _ args => namesAll args
  | exact properties => namesProperties properties
  | _ => []

def namesAll : List FlowType → List String
  | [] => []
  | type :: rest => type.names ++ namesAll rest

def namesProperties : List (Property FlowType) → List String
  | [] => []
  | ⟨_, value, _⟩ :: rest => value.names ++ namesProperties rest

end

def property? (type : FlowType) (name : String) : Option (Property FlowType) :=
  match type with
  | exact properties => properties.find? (·.name == name)
  | _ => none

end FlowType

end FlowClient
