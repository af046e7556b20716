import FlowClient.Flow.Type

/-!
Generated modules: imports, type aliases and one function that returns an expression.
-/

namespace FlowClient

inductive ImportKind
  | value
  | type
deriving DecidableEq, Repr

inductive Specifier
  | default (name : String)
  | named (name : String)
  | aliased (imported name : String)
deriving DecidableEq, Repr

def Specifier.binding : Specifier → String
  | .default name => name
  | .named name => name
  | .aliased _ name => name

structure Import where
  kind : ImportKind
  specifiers : List Specifier
  source : String
deriving DecidableEq, Repr

def Import.binds (i : Import) (name : String) : Bool :=
  i.specifiers.any (·.binding == name)

/-- A piece of a template literal: text, or an identifier between braces. -/
inductive TemplatePart
  | literal (text : String)
  | variable (name : String)
deriving DecidableEq, Repr

inductive Expr
  | ident (name : String)
  | str (text : String)
  | template (parts : List TemplatePart)
  | concat (left right : Expr)
  | call (callee : String) (args : List Expr)
  | new (callee : String) (args : List Expr)
  | object (fields : List (String × Expr))
deriving Inhabited, Repr

namespace Expr

def field? (e : Expr) (key : String) : Option Expr :=
  match e with
  | object fields => fields.lookup key
  | _ => none

mutual

def calls (callee : String) : Expr → Nat
  | ident _ => 0
  | str _ => 0
  | template _ => 0
  | concat left right => left.calls callee + right.calls callee
  | call c args => (if c = callee then 1 else 0) + callsAll callee args
  | new _ args => callsAll callee args
  | object fields => callsFields callee fields

def callsAll (callee : String) : List Expr → Nat
  | [] => 0
  | e :: rest => e.calls callee + callsAll callee rest

def callsFields (callee : String) : List (String × Expr) → Nat
  | [] => 0
  | (_, e) :: rest => e.calls callee + callsFields callee rest

end

end Expr

structure Param where
  name : String
  annotation : FlowType
deriving Repr

structure Function where
  name : String
  params : List Param
  body : Expr
  returnType : FlowType
deriving Repr

structure TypeAlias where
  name : String
  value : FlowType
  exported : Bool
deriving Repr

structure Module where
  imports : List Import
  aliases : List TypeAlias
  function : Function
deriving Repr

/-- The names declared at the top level of a module. -/
def Module.declared (m : Module) : List String :=
  m.imports.flatMap (fun i => i.specifiers.map (·.binding)) ++ m.aliases.map (·.name) ++
    [m.function.name]

end FlowClient
