import FlowClient.Document.Basic
import FlowClient.Flow.Type

/-!
Schemas as Flow types. References are never followed, so schemas may refer to each other as they like;
only the parts of a composition are looked up, and nothing but their own properties is taken from them.
-/

namespace FlowClient

/-- Typing a schema notes each name that is referred to, and has no result where the levels run out. -/
abbrev Typing := StateT (List String) Option

def refer (name : String) : Typing Unit := modify (· ++ [name])

/-- The schema that a part of a composition stands for: the definition it refers to, else itself. A
part that refers to no definition is left out. -/
def sourceOf? (definitions : Table Schema) (part : Schema) : Option Schema :=
  match part.definitionName? with
  | some name => definitions.get? name
  | none => some part

/-- The sources of a composition: its parts in order, and the schema itself last. -/
def sources (definitions : Table Schema) (s : Schema) (parts : List Schema) : List Schema :=
  parts.filterMap (sourceOf? definitions) ++ [s]

/-- The properties of all sources; a later one replaces an earlier one in its place. -/
def mergedProperties (all : List Schema) : Table Schema :=
  Table.ofEntries (all.flatMap (·.properties))

def mergedRequired (all : List Schema) : List String :=
  all.flatMap (·.required)

def exactObject (inner : Schema → Typing FlowType) (properties : Table Schema)
    (required : List String) : Typing FlowType := do
  let fields ← properties.mapM fun entry => do
    return (⟨entry.1, ← inner entry.2, !required.contains entry.1⟩ : Property FlowType)
  return .exact fields

def stringType (values : List Json) : FlowType :=
  let texts := values.filterMap Json.str?
  if texts.isEmpty then .string else .union (texts.map .literal)

/-- The type of a schema, where `levels` bounds how deep its parts are followed. -/
def flowTypeWithin (definitions : Table Schema) : Nat → Schema → Typing FlowType
  | 0, _ => failure
  | levels + 1, s =>
    let inner := flowTypeWithin definitions levels
    match s.kind with
    | .reference name => do
      refer name
      return .named name
    | .composite parts =>
      let all := sources definitions s parts
      exactObject inner (mergedProperties all) (mergedRequired all)
    | .object =>
      if s.properties.isEmpty then return .openObject
      else exactObject inner s.properties s.required
    | .array items =>
      match items with
      | some element => return .array (← inner element)
      | none => return .array .any
    | .string values => return stringType values
    | .number => return .number
    | .boolean => return .boolean
    | .any => return .any

mutual

def Schema.inside : Schema → List Schema
  | ⟨_, _, _, _, _, properties, _, items, allOf, _, _, _⟩ =>
    insideMembers properties ++ insideItems items ++ insideAll allOf

def insideItems : Option Schema → List Schema
  | none => []
  | some s => s :: s.inside

def insideAll : List Schema → List Schema
  | [] => []
  | s :: rest => s :: s.inside ++ insideAll rest

def insideMembers : List (String × Schema) → List Schema
  | [] => []
  | (_, s) :: rest => s :: s.inside ++ insideMembers rest

end

def schemasOver (definitions : Table Schema) (s : Schema) : List Schema :=
  s :: s.inside ++ definitions.flatMap fun entry => entry.2 :: entry.2.inside

/-- Levels enough for every schema over a table: where typing ends, it meets no schema again on its way
down. -/
def levelsFor (definitions : Table Schema) (s : Schema) : Nat :=
  (schemasOver definitions s).length

/-- The type of a schema. There is none where a composition leads back to itself. -/
def flowType (definitions : Table Schema) (s : Schema) : Typing FlowType :=
  flowTypeWithin definitions (levelsFor definitions s) s

/-- The names in order of first appearance, without repeats and without one's own. -/
def importNames (names : List String) (own : Option String) : List String :=
  (names.filter fun name => some name != own).eraseDups

end FlowClient
