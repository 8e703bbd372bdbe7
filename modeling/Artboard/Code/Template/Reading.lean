import Artboard.Json.Token

/-!
# Reading from the front

Readings of characters and how they combine. A choice takes the first alternative that fits and
does not come back to the others, and a repetition takes as much as there is.
-/

namespace Artboard

/-- Reads from the front of a text and leaves the rest; nothing where the text does not fit. -/
abbrev Reading (α : Type) := StateT (List Char) Option α

namespace Reading

variable {α : Type}

def isSymbol (c : Char) : Bool :=
  c.isAlphanum || c == '-' || c == '_' || c == '$' || 0x80 ≤ c.toNat

def one (p : Char → Bool) : Reading Char := fun
  | c :: rest => if p c then some (c, rest) else none
  | [] => none

def char (c : Char) : Reading Unit := discard (one (· == c))

def chars (s : String) : Reading Unit := s.toList.forM char

def takeWhile (p : Char → Bool) : Reading (List Char) := fun cs => some (cs.span p)

def takeSome (p : Char → Bool) : Reading (List Char) := do
  return (← one p) :: (← takeWhile p)

def blanks : Reading Unit := discard (takeWhile JsonToken.isBlank)

def word : Reading String := do return String.ofList (← takeSome isSymbol)

def skip (p : Reading α) : Reading Unit := discard (optional p)

def notBefore (p : Reading α) : Reading Unit := fun cs =>
  if (p cs).isSome then none else some ((), cs)

def wordEnd : Reading Unit := notBefore (one isSymbol)

def upTo (p : Reading α) : Nat → Reading (List α)
  | 0 => pure []
  | n + 1 => (do return (← p) :: (← upTo p n)) <|> pure []

def many (p : Reading α) : Reading (List α) := fun cs => upTo p cs.length cs

def withText (p : Reading α) : Reading (α × List Char) := fun cs =>
  (p cs).map fun r => ((r.1, cs.take (cs.length - r.2.length)), r.2)

end Reading

end Artboard
