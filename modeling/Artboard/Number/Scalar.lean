/-!
# Scalars

Boxes, flows and trees are written once over any `Scalar`. `Float` is the scalar a program runs
on; `Rat` is the exact one, for laws that rounding would break. Powers of two and ten scale what is
written in binary and in decimal.
-/

namespace Artboard

def twoTo (n : Nat) : Nat := Nat.pow 2 n

def tenTo (n : Nat) : Nat := Nat.pow 10 n

class Scalar (α : Type) extends
    Add α, Sub α, Mul α, Div α, Neg α, LT α, LE α, BEq α, OfScientific α where
  numeral : ∀ n, OfNat α n
  decideLT : DecidableLT α
  decideLE : DecidableLE α
  infinity : α
  isFinite : α → Bool
  /-- A total preorder for sorting, whatever `≤` says of odd values. -/
  totalCompare : α → α → Ordering
  remainder : α → α → α
  text : α → String

attribute [reducible, instance] Scalar.numeral Scalar.decideLT Scalar.decideLE

namespace Scalar

variable {α : Type} [Scalar α]

instance : Inhabited α := ⟨0⟩

/-- The smaller number; one that differs from itself loses to any other. -/
def least (a b : α) : α := if a ≤ b ∨ (b == b) = false then a else b

def greatest (a b : α) : α := if b ≤ a ∨ (b == b) = false then a else b

def leastOf (l : List α) : α :=
  match l.filter (fun a => a == a) with
  | [] => infinity
  | a :: rest => rest.foldl least a

def greatestOf (l : List α) : α :=
  match l.filter (fun a => a == a) with
  | [] => -infinity
  | a :: rest => rest.foldl greatest a

def magnitude (a : α) : α := if a < 0 then -a else a

def clamp (low high a : α) : α := if a < low then low else if high < a then high else a

def wrap (a b : α) : α :=
  let r := remainder a b
  if r < 0 then r + magnitude b else r

def sum (l : List α) : α := l.foldl (· + ·) 0

end Scalar

instance : Scalar Rat where
  numeral _ := inferInstance
  decideLT := inferInstance
  decideLE := inferInstance
  infinity := 0
  isFinite _ := true
  totalCompare a b := if a < b then .lt else if a = b then .eq else .gt
  remainder a b := a - b * ((a / b).num.tdiv (a / b).den : Int)
  text a := toString a.num ++ "/" ++ toString a.den

end Artboard
