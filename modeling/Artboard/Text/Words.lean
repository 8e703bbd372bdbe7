import Artboard.Text.Cluster

/-!
# Words

Cutting a name into words, and putting words together in the styles that names are written in.
Words end at spaces, hyphens and underscores, and where case or digits change.
-/

namespace Artboard

namespace Words

inductive Look
  | upper
  | lower
  | digit
  | plain
  deriving DecidableEq

/-- How a cluster looks. A letter has a case if its upper and lower case differ. -/
def look (cluster : List Char) : Look :=
  let up := Case.upper cluster
  let down := Case.lower cluster
  if up ≠ down ∧ cluster = up then .upper
  else if up ≠ down ∧ cluster = down then .lower
  else if cluster.all (·.isDigit) then .digit
  else .plain

def isSeparator (cluster : List Char) : Bool :=
  cluster == ['-'] || cluster == ['_'] || cluster == [' ']

def endsBetween : Look → Look → Bool
  | .lower, .upper | .upper, .digit | .digit, .upper | .digit, .lower | .lower, .digit => true
  | _, _ => false

/-- Whether a word ends before the last of three clusters in a row: an acronym ends before the
capital of the next word. -/
def acronymEnds : Look → Look → Look → Bool
  | .upper, .upper, .lower => true
  | _, _, _ => false

/-- Words of a text, where `word` holds the clusters of the last one, last first. -/
def splitFrom (word : List (List Char)) : List (List Char) → List (List Char)
  | [] => [word.reverse.flatten]
  | c :: rest =>
    if isSeparator c then word.reverse.flatten :: splitFrom [] rest
    else
      let cut := match word with
        | [] => false
        | p :: _ =>
          endsBetween (look p) (look c) ||
            (match rest with
              | n :: _ => acronymEnds (look p) (look c) (look n)
              | [] => false)
      if cut then word.reverse.flatten :: splitFrom [c] rest else splitFrom (c :: word) rest

def split (name : List Char) : List (List Char) :=
  (splitFrom [] (Cluster.split name)).filter fun w => !w.isEmpty

def joinWith (separator : List Char) : List (List Char) → List Char
  | [] => []
  | [w] => w
  | w :: rest => w ++ separator ++ joinWith separator rest

end Words

inductive NameStyle
  | pascal
  | camel
  | snake
  | kebab
  | title
  deriving DecidableEq

namespace NameStyle

def write (words : List (List Char)) : NameStyle → List Char
  | pascal => (words.map Case.capitalize).flatten
  | camel =>
    match words with
    | [] => []
    | w :: rest => Case.lower w ++ (rest.map Case.capitalize).flatten
  | snake => Words.joinWith ['_'] (words.map Case.lower)
  | kebab => Words.joinWith ['-'] (words.map Case.lower)
  | title => Words.joinWith [' '] (words.map Case.capitalize)

def apply (style : NameStyle) (name : String) : String :=
  String.ofList (style.write (Words.split name.toList))

end NameStyle

end Artboard
