import FlowClient.Text.Letter
import FlowClient.Text.Digit
import FlowClient.Text.Case

/-!
Words inside a name, and the name in Pascal case. A word ends before anything that is neither letter
nor numeral, between a lower and an upper letter, and before the last capital of a run of capitals
that a lower letter follows.
-/

namespace FlowClient.Text

def isAlphanumeric (c : Char) : Bool :=
  isLetter c || isNumeral c

inductive WordCase
  | unknown
  | lower
  | upper
deriving DecidableEq, Repr

/-- The case after one more character; a numeral leaves it. -/
def WordCase.after (w : WordCase) (c : Char) : WordCase :=
  if isLower c then .lower else if isUpper c then .upper else w

/-- The words of a text, where `word` holds the open word, last character first. -/
def wordsFrom (seen : WordCase) (word : List Char) : List Char → List (List Char)
  | [] => if word.isEmpty then [] else [word.reverse]
  | c :: rest =>
    if isAlphanumeric c then
      if seen.after c = .lower && rest.head?.any isUpper then
        (c :: word).reverse :: wordsFrom .unknown [] rest
      else if seen = .upper && isUpper c && rest.head?.any isLower then
        word.reverse :: wordsFrom .unknown [c] rest
      else wordsFrom (seen.after c) (c :: word) rest
    else if word.isEmpty then wordsFrom .unknown [] rest
    else word.reverse :: wordsFrom .unknown [] rest

def words (name : List Char) : List (List Char) :=
  wordsFrom .unknown [] name

/-- The rest of a word in lowercase; a capital sigma at its end takes the final form. -/
def lowerTail : List Char → List Char
  | [] => []
  | ['Σ'] => ['ς']
  | c :: rest => lowerChar c ++ lowerTail rest

def capitalize : List Char → List Char
  | [] => []
  | c :: rest => upperChar c ++ lowerTail rest

def pascalCase (name : String) : String :=
  String.ofList ((words name.toList).flatMap capitalize)

end FlowClient.Text
