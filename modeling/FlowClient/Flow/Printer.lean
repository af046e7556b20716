import FlowClient.Flow.Module
import FlowClient.Naming.Identifier

/-!
Types, expressions and declarations as JavaScript text. Exact objects and object literals take one line
for each property.
-/

namespace FlowClient

def indentation (depth : Nat) : String := String.ofList (List.replicate (2 * depth) ' ')

def quoteEscape (c : Char) : List Char :=
  if c = '\\' then ['\\', '\\']
  else if c = '\'' then ['\\', '\'']
  else if c = '\n' then ['\\', 'n']
  else if c = '\r' then ['\\', 'r']
  else [c]

def quoteChars (cs : List Char) : List Char := '\'' :: cs.flatMap quoteEscape ++ ['\'']

def quote (text : String) : String := String.ofList (quoteChars text.toList)

def propertyKey (name : String) : String := if isIdentifier name then name else quote name

/-- Text inside a template literal. A dollar sign is escaped where a brace follows it. -/
def templateChars : List Char → List Char
  | [] => []
  | '\\' :: rest => '\\' :: '\\' :: templateChars rest
  | '`' :: rest => '\\' :: '`' :: templateChars rest
  | '$' :: '{' :: rest => '\\' :: '$' :: '{' :: templateChars rest
  | c :: rest => c :: templateChars rest

def TemplatePart.print : TemplatePart → String
  | .literal text => String.ofList (templateChars text.toList)
  | .variable name => "$\x7b" ++ name ++ "\x7d"

def joined (between : String) (pieces : List String) : String := between.intercalate pieces

namespace FlowType

mutual

/-- The type, where its first line stands at the given depth. -/
def printAt (depth : Nat) : FlowType → String
  | any => "any"
  | string => "string"
  | number => "number"
  | boolean => "boolean"
  | literal text => quote text
  | union members => joined " | " (printAll depth members)
  | array element => "Array<" ++ element.printAt depth ++ ">"
  | generic name args => name ++ "<" ++ joined ", " (printAll depth args) ++ ">"
  | openObject => "Object"
  | exact [] => "\x7b||\x7d"
  | exact (p :: rest) =>
    "\x7b|\n" ++ String.join (printProperties depth (p :: rest)) ++ indentation depth ++ "|\x7d"
  | named name => name

def printAll (depth : Nat) : List FlowType → List String
  | [] => []
  | type :: rest => type.printAt depth :: printAll depth rest

def printProperties (depth : Nat) : List (Property FlowType) → List String
  | [] => []
  | ⟨name, value, optional⟩ :: rest =>
    (indentation (depth + 1) ++ propertyKey name ++ (if optional then "?" else "") ++ ": " ++
      value.printAt (depth + 1) ++ ",\n") :: printProperties depth rest

end

def print (type : FlowType) : String := type.printAt 0

end FlowType

namespace Expr

mutual

def printAt (depth : Nat) : Expr → String
  | ident name => name
  | str text => quote text
  | template parts => "`" ++ String.join (parts.map TemplatePart.print) ++ "`"
  | concat left right => left.printAt depth ++ " + " ++ right.printAt depth
  | call callee args => callee ++ "(" ++ joined ", " (printAll depth args) ++ ")"
  | new callee args => "new " ++ callee ++ "(" ++ joined ", " (printAll depth args) ++ ")"
  | object [] => "\x7b\x7d"
  | object (f :: rest) =>
    "\x7b\n" ++ String.join (printFields depth (f :: rest)) ++ indentation depth ++ "\x7d"

def printAll (depth : Nat) : List Expr → List String
  | [] => []
  | e :: rest => e.printAt depth :: printAll depth rest

/-- The fields of an object. One that holds the identifier of its own name is written once. -/
def printFields (depth : Nat) : List (String × Expr) → List String
  | [] => []
  | (key, .ident name) :: rest =>
    (indentation (depth + 1) ++ (if name = key then key else propertyKey key ++ ": " ++ name) ++
      ",\n") :: printFields depth rest
  | (key, e) :: rest =>
    (indentation (depth + 1) ++ propertyKey key ++ ": " ++ e.printAt (depth + 1) ++ ",\n") ::
      printFields depth rest

end

def print (e : Expr) : String := e.printAt 0

end Expr

def Specifier.default? : Specifier → Option String
  | .default name => some name
  | _ => none

def Specifier.braced? : Specifier → Option String
  | .default _ => none
  | .named name => some name
  | .aliased imported name => some (imported ++ " as " ++ name)

def Import.print (i : Import) : String :=
  let defaults := i.specifiers.filterMap Specifier.default?
  let braced := i.specifiers.filterMap Specifier.braced?
  let first := joined ", " defaults
  let clause :=
    if braced.isEmpty then first
    else first ++ (if first.isEmpty then "" else ", ") ++ "\x7b " ++ joined ", " braced ++ " \x7d"
  let keyword := match i.kind with
    | .value => "import"
    | .type => "import type"
  keyword ++ " " ++ clause ++ " from " ++ quote i.source ++ ";"

def TypeAlias.print (a : TypeAlias) : String :=
  (if a.exported then "export " else "") ++ "type " ++ a.name ++ " = " ++ a.value.print ++ ";"

def Function.print (f : Function) : String :=
  "function " ++ f.name ++ "(" ++
    joined ", " (f.params.map fun p => p.name ++ ": " ++ p.annotation.print) ++ "): " ++
    f.returnType.print ++ " \x7b\n" ++ indentation 1 ++ "return " ++ f.body.printAt 1 ++ ";\n\x7d"

end FlowClient
