/-!
Paths with placeholders in braces, such as `/users/{id}/posts`.
-/

namespace FlowClient

inductive Segment
  | literal (text : String)
  | placeholder (name : String)
deriving DecidableEq, Repr

def Segment.of (inside : Bool) (text : List Char) : List Segment :=
  if text.isEmpty then []
  else if inside then [.placeholder (String.ofList text)] else [.literal (String.ofList text)]

/-- The pieces of a path, where `text` holds the open piece, last character first, and `inside` tells
whether the last brace before it opened. -/
def segmentsFrom (inside : Bool) (text : List Char) : List Char → List Segment
  | [] => Segment.of inside text.reverse
  | c :: rest =>
    if c = '{' || c = '}' then
      Segment.of inside text.reverse ++ segmentsFrom (c = '{') [] rest
    else segmentsFrom inside (c :: text) rest

/-- The pieces of a path. An opening brace starts a placeholder and a closing one ends it. -/
def segments (path : String) : List Segment := segmentsFrom false [] path.toList

def Segment.placeholder? : Segment → Option String
  | .placeholder name => some name
  | .literal _ => none

/-- The names of the placeholders in order of first appearance, without repeats. -/
def placeholders (pieces : List Segment) : List String :=
  (pieces.filterMap Segment.placeholder?).eraseDups

end FlowClient
