import Artboard.Json.Numeral

/-!
# JSON tokens

A text cut into tokens by an automaton that takes one character at a time. From the first
character that fits nowhere on there is one `bad` token and no other. Numbers and strings that are
well formed but stand for no value are tokens too.
-/

namespace Artboard

inductive JsonToken
  | openList
  | closeList
  | openObject
  | closeObject
  | comma
  | colon
  | text (s? : Option String)
  | scalar (value : Json)
  | bad

namespace JsonToken

inductive Phase
  | sign
  | zero
  | whole
  | point
  | fraction
  | exponent
  | exponentSign
  | exponentDigits

inductive Letters
  /-- Its characters so far, last first, and a first surrogate that waits for its second. -/
  | sound (chars : List Char) (high : Option Nat)
  | broken

namespace Letters

def empty : Letters := sound [] none

def add (c : Char) : Letters → Letters
  | sound chars none => sound (c :: chars) none
  | _ => broken

def addUnit (u : Nat) : Letters → Letters
  | sound chars none =>
    if 0xD800 ≤ u ∧ u ≤ 0xDBFF then sound chars (some u)
    else if 0xDC00 ≤ u ∧ u ≤ 0xDFFF then broken
    else sound (Char.ofNat u :: chars) none
  | sound chars (some h) =>
    if 0xDC00 ≤ u ∧ u ≤ 0xDFFF then
      sound (Char.ofNat (0x10000 + (h - 0xD800) * 0x400 + (u - 0xDC00)) :: chars) none
    else broken
  | broken => broken

def close? : Letters → Option String
  | sound chars none => some (String.ofList chars.reverse)
  | _ => none

end Letters

inductive State
  | idle
  | word (rest : List Char) (value : Json)
  | inText (read : Letters)
  | escape (read : Letters)
  | code (read : Letters) (missing : Nat) (value : Nat)
  | numeral (phase : Phase) (n : Numeral)
  | dead

def isBlank (c : Char) : Bool := c = ' ' || c = '\t' || c = '\n' || c = '\r'

def digit? (c : Char) : Option Nat := if c.isDigit then some (c.toNat - '0'.toNat) else none

def hexDigit? (c : Char) : Option Nat :=
  if c.isDigit then some (c.toNat - '0'.toNat)
  else if 'a' ≤ c ∧ c ≤ 'f' then some (c.toNat - 'a'.toNat + 10)
  else if 'A' ≤ c ∧ c ≤ 'F' then some (c.toNat - 'A'.toNat + 10)
  else none

def escaped? : Char → Option Char
  | '"' => some '"'
  | '\\' => some '\\'
  | '/' => some '/'
  | 'b' => some '\x08'
  | 'f' => some '\x0c'
  | 'n' => some '\n'
  | 'r' => some '\r'
  | 't' => some '\t'
  | _ => none

def die : List JsonToken × State := ([bad], .dead)

def begin (c : Char) : List JsonToken × State :=
  match c with
  | '[' => ([openList], .idle)
  | ']' => ([closeList], .idle)
  | '\x7b' => ([openObject], .idle)
  | '\x7d' => ([closeObject], .idle)
  | ',' => ([comma], .idle)
  | ':' => ([colon], .idle)
  | '"' => ([], .inText .empty)
  | 't' => ([], .word ['r', 'u', 'e'] (.bool true))
  | 'f' => ([], .word ['a', 'l', 's', 'e'] (.bool false))
  | 'n' => ([], .word ['u', 'l', 'l'] .null)
  | '-' => ([], .numeral .sign ⟨true, [], none, none⟩)
  | '0' => ([], .numeral .zero ⟨false, [0], none, none⟩)
  | _ =>
    match digit? c with
    | some d => ([], .numeral .whole ⟨false, [d], none, none⟩)
    | none => if isBlank c then ([], .idle) else die

def finishNumeral (n : Numeral) : JsonToken :=
  scalar ((n.value?.map Json.number).getD .unreadable)

def closeNumeral (n : Numeral) (c : Char) : List JsonToken × State :=
  let (ts, s) := begin c
  (finishNumeral n :: ts, s)

def addWhole (n : Numeral) (d : Nat) : Numeral := { n with whole := n.whole ++ [d] }

def addFraction (n : Numeral) (d : Nat) : Numeral :=
  { n with fraction := some (n.fraction.getD [] ++ [d]) }

def addExponent (n : Numeral) (d : Nat) : Numeral :=
  let (down, ds) := n.exponent.getD (false, [])
  { n with exponent := some (down, ds ++ [d]) }

/-- A numeral has no needless zeros in front, and a digit after a point or an exponent's mark. -/
def stepNumeral (phase : Phase) (n : Numeral) (c : Char) : List JsonToken × State :=
  let isMark := c = 'e' || c = 'E'
  match phase, digit? c with
  | .sign, some 0 => ([], .numeral .zero { n with whole := [0] })
  | .sign, some d => ([], .numeral .whole { n with whole := [d] })
  | .whole, some d => ([], .numeral .whole (addWhole n d))
  | .point, some d | .fraction, some d => ([], .numeral .fraction (addFraction n d))
  | .exponent, some d | .exponentSign, some d | .exponentDigits, some d =>
    ([], .numeral .exponentDigits (addExponent n d))
  | .zero, some _ | .sign, none | .point, none | .exponentSign, none => die
  | .exponent, none =>
    if c = '+' then ([], .numeral .exponentSign n)
    else if c = '-' then ([], .numeral .exponentSign { n with exponent := some (true, []) })
    else die
  | .exponentDigits, none => closeNumeral n c
  | .fraction, none => if isMark then ([], .numeral .exponent n) else closeNumeral n c
  | .zero, none | .whole, none =>
    if c = '.' then ([], .numeral .point n)
    else if isMark then ([], .numeral .exponent n)
    else closeNumeral n c

def step (s : State) (c : Char) : List JsonToken × State :=
  match s with
  | .idle => begin c
  | .dead => ([], .dead)
  | .word (w :: rest) v =>
    if w = c then (if rest.isEmpty then ([scalar v], .idle) else ([], .word rest v)) else die
  | .word [] _ => die
  | .inText read =>
    if c = '\\' then ([], .escape read)
    else if c.toNat < 0x20 then die
    else if c = '"' then ([text read.close?], .idle)
    else ([], .inText (read.add c))
  | .escape read =>
    if c = 'u' then ([], .code read 4 0)
    else
      match escaped? c with
      | some e => ([], .inText (read.add e))
      | none => die
  | .code read missing value =>
    match hexDigit? c with
    | none => die
    | some d =>
      if missing ≤ 1 then ([], .inText (read.addUnit (value * 16 + d)))
      else ([], .code read (missing - 1) (value * 16 + d))
  | .numeral phase n => stepNumeral phase n c

def finish : State → List JsonToken
  | .idle | .dead => []
  | .numeral phase n =>
    match phase with
    | .zero | .whole | .fraction | .exponentDigits => [finishNumeral n]
    | _ => [bad]
  | _ => [bad]

def run (s : State) : List Char → List JsonToken
  | [] => finish s
  | c :: rest => (step s c).1 ++ run (step s c).2 rest

def ofText (s : String) : List JsonToken := run .idle s.toList

end JsonToken

end Artboard
