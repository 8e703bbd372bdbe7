import Artboard.Text.CaseTable

/-!
# Upper and lower case

Full case mapping of texts. A sigma at the end of a word has a lower case form of its own.
-/

namespace Artboard

def inRanges (n : Nat) : List (Nat × Nat) → Bool
  | [] => false
  | (low, high) :: rest => if n < low then false else n ≤ high || inRanges n rest

namespace Case

def shift? (n : Nat) : List (Nat × Nat × Nat × Int) → Option Nat
  | [] => none
  | (first, last, step, distance) :: rest =>
    if n < first then none
    else if n ≤ last && (n - first) % step == 0 then some ((n : Int) + distance).toNat
    else shift? n rest

def mapChar (runs : List (Nat × Nat × Nat × Int)) (strings : List (Nat × List Nat)) (c : Char) :
    List Char :=
  match shift? c.toNat runs with
  | some n => [Char.ofNat n]
  | none =>
    match strings.find? fun p => p.1 == c.toNat with
    | some p => p.2.map Char.ofNat
    | none => [c]

def upperChar (c : Char) : List Char := mapChar CaseTable.upperRuns CaseTable.upperStrings c

def lowerChar (c : Char) : List Char := mapChar CaseTable.lowerRuns CaseTable.lowerStrings c

def isCased (c : Char) : Bool := inRanges c.toNat CaseTable.casedRanges

def isIgnorable (c : Char) : Bool := inRanges c.toNat CaseTable.ignorableRanges

def meetsCased (cs : List Char) : Bool :=
  match cs.dropWhile isIgnorable with
  | c :: _ => isCased c
  | [] => false

def upper (cs : List Char) : List Char := cs.flatMap upperChar

/-- Lower case of what follows the characters given last to first. -/
def lowerFrom (before : List Char) : List Char → List Char
  | [] => []
  | c :: rest =>
    (if c = 'Σ' then (if meetsCased before && !meetsCased rest then ['ς'] else ['σ'])
      else lowerChar c) ++ lowerFrom (c :: before) rest

def lower (cs : List Char) : List Char := lowerFrom [] cs

def capitalize : List Char → List Char
  | [] => []
  | c :: rest => upperChar c ++ lower rest

end Case

end Artboard
