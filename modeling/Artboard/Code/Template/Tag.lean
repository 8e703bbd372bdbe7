import Artboard.Code.Template.Literal

/-!
# Tags

A template is a list of texts and tags. A tag shows a value: one found in the data, or what a helper
makes of its operands. A word with operands is a call, and what was read as one is not tried as a
reference any more.
-/

namespace Artboard

structure Reference where
  text : String
  /-- Whether it means a variable of the template. There are none, so nothing is found. -/
  isVariable : Bool
  path : List String
  deriving DecidableEq

inductive Operand
  | reference (r : Reference)
  | literal (v : Json)
  | call (helper : String) (operands : List Operand) (options : List (String × Operand))

inductive Piece
  | text (s : String)
  | call (helper : String) (operands : List Operand) (options : List (String × Operand))
  /-- An operand alone. If it gives the name of a helper, that is called on nothing. -/
  | value (o : Operand)

abbrev Template := List Piece

namespace Operand

mutual

def isReadable : Operand → Bool
  | reference _ => true
  | literal v => v.isReadable
  | call _ operands options => operandsReadable operands && optionsReadable options

def operandsReadable : List Operand → Bool
  | [] => true
  | o :: rest => isReadable o && operandsReadable rest

def optionsReadable : List (String × Operand) → Bool
  | [] => true
  | (_, o) :: rest => isReadable o && optionsReadable rest

end

end Operand

def Piece.isReadable : Piece → Bool
  | text _ => true
  | call _ operands options =>
    Operand.operandsReadable operands && Operand.optionsReadable options
  | value o => o.isReadable

structure Tag where
  piece : Piece
  trimsBefore : Bool
  trimsAfter : Bool

namespace Reading

/-! ## References -/

def separator : Reading Unit := char '/' <|> char '.'

def step : Reading String :=
  word <|> (do
    char '['
    let name ← takeWhile (· != ']')
    char ']'
    return String.ofList name)

/-- Whether it names a variable, and the steps. They start at the data wherever they stand, so
what points there or upwards is passed over. -/
def path : Reading (Bool × List String) := do
  skip ((do chars "this"; separator) <|> chars "./")
  let root ← optional (do chars "@root"; separator)
  let sign ← optional (char '@')
  discard (many (do chars ".."; separator))
  let first ← step
  let rest ← many (do separator; step)
  return (sign.isSome && root.isNone, (first :: rest).filter (· != "this"))

def reference : Reading Reference := do
  let ((isVariable, steps), text) ← withText path
  return ⟨String.ofList text, isVariable, steps⟩

/-! ## Calls -/

/-- Words that are no operands, unless another word follows. -/
def keyword : Reading Unit := do
  (chars "as" <|> chars "else")
  blanks
  wordEnd

def argument (operand : Reading Operand) : Reading (Option String × Operand) :=
  (do
    let name ← word
    blanks
    char '='
    blanks
    return (some name, ← operand)) <|>
  (do return (none, ← operand))

def optionsOf : List (Option String × Operand) → List (String × Operand)
  | [] => []
  | (none, _) :: rest => optionsOf rest
  | (some name, o) :: rest =>
    if (optionsOf rest).any fun p => p.1 == name then optionsOf rest
    else (name, o) :: optionsOf rest

def operandsOf (arguments : List (Option String × Operand)) : List Operand :=
  arguments.filterMap fun p => if p.1.isNone then some p.2 else none

def call (operand : Reading Operand) : Reading (String × List (Option String × Operand)) := do
  let helper ← word
  blanks
  let first ← argument operand
  let rest ← many (do blanks; argument operand)
  return (helper, first :: rest)

def nested (operand : Reading Operand) : Reading Operand := do
  char '('
  blanks
  let (helper, arguments) ← call operand <|> (do return ((← reference).text, []))
  blanks
  char ')'
  return .call helper (operandsOf arguments) (optionsOf arguments)

def operandWithin : Nat → Reading Operand
  | 0 => failure
  | bound + 1 => do
    notBefore keyword
    (do return .literal (← literal)) <|>
    (do return .reference (← reference)) <|>
    nested (operandWithin bound)

def operand : Reading Operand := fun cs => operandWithin cs.length cs

/-! ## Braces -/

def name : Reading Operand := nested operand <|> (do return .reference (← reference))

def content : Reading Piece :=
  (do
    let (helper, arguments) ← call operand
    return .call helper (operandsOf arguments) (optionsOf arguments)) <|>
  (do return .value (← name))

def trimMark : Reading Bool := do
  blanks
  let mark ← optional (char '~')
  blanks
  return mark.isSome

def braced (opening closing : String) (inside : Reading Piece) : Reading Tag := do
  chars opening
  let before ← trimMark
  let piece ← inside
  let after ← trimMark
  chars closing
  return ⟨piece, before, after⟩

def twoBraces : Reading Piece → Reading Tag := braced "\x7b\x7b" "\x7d\x7d"

def threeBraces : Reading Piece → Reading Tag := braced "\x7b\x7b\x7b" "\x7d\x7d\x7d"

def alternative : Reading Piece := do
  chars "else"
  skip (do blanks; discard word; discard (many (do blanks; argument operand)))
  return .text ""

def braceInside : Reading Piece := do
  char '\x7b'
  blanks
  let piece ← content
  blanks
  char '\x7d'
  return piece

def ampersand : Reading Piece := do
  char '&'
  blanks
  return .value (← name)

def tag : Reading Tag :=
  (do notBefore (twoBraces alternative); twoBraces content) <|>
  threeBraces content <|> twoBraces braceInside <|> twoBraces ampersand

end Reading

end Artboard
