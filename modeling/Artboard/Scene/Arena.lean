import Artboard.Scene.Element

/-!
# Arenas

A tree stored in numbered slots. Children are lists of slot numbers and a parent is one more
number, so a slot may be linked several times, from both sides or from one, and a number may name
no slot at all. Functions that follow links take a budget of steps, enough for every arena whose
links form no cycle.
-/

namespace Artboard

structure Slot (α : Type) where
  element : Element α
  parent : Option Nat
  children : List Nat

structure Arena (α : Type) where
  slots : Array (Slot α)
  roots : List Nat

structure UnknownNode where
  index : Nat
  deriving DecidableEq, Repr

def UnknownNode.message (e : UnknownNode) : String := "No node at index " ++ toString e.index

namespace Arena

variable {α : Type}

def empty : Arena α := ⟨#[], []⟩

section Access
variable (a : Arena α)

def size : Nat := a.slots.size

def get? (i : Nat) : Option (Slot α) := a.slots[i]?

def get (i : Nat) : Except UnknownNode (Slot α) :=
  match a.get? i with
  | some s => .ok s
  | none => .error ⟨i⟩

def childIndices (i : Nat) : List Nat := ((a.get? i).map (·.children)).getD []

def children (i : Nat) : List Nat := (a.childIndices i).filter fun c => (a.get? c).isSome

def parent? (i : Nat) : Option (Slot α) := do
  let s ← a.get? i
  let p ← s.parent
  a.get? p

end Access

section Building
variable (a : Arena α)

def insert (e : Element α) : Arena α := { a with slots := a.slots.push ⟨e, none, []⟩ }

def modify (i : Nat) (f : Slot α → Slot α) : Arena α := { a with slots := a.slots.modify i f }

/-- A number that names no slot changes nothing. -/
def addRoot (i : Nat) : Arena α :=
  if i < a.size then { a.modify i fun s => { s with parent := none } with roots := a.roots ++ [i] }
  else a

def pushChild (parent child : Nat) : Arena α :=
  a.modify parent fun s => { s with children := s.children ++ [child] }

def attach (parent child : Nat) : Except UnknownNode (Arena α) := do
  let _ ← a.get parent
  let _ ← a.get child
  return (a.modify child fun s => { s with parent := some parent }).pushChild parent child

def shift [Scalar α] (i : Nat) (dx dy : α) : Arena α :=
  a.modify i fun s => { s with element := s.element.shift dx dy }

end Building

section Walk
variable (a : Arena α)

def linkCount : Nat := (a.slots.toList.flatMap (·.children)).length

theorem length_le_flatMap {s : Slot α} : ∀ {l : List (Slot α)}, s ∈ l →
    s.children.length ≤ (l.flatMap (·.children)).length
  | t :: l, h => by
    rw [List.flatMap_cons, List.length_append]
    rcases List.mem_cons.mp h with rfl | h
    · omega
    · have := length_le_flatMap h; omega

theorem length_childIndices_le (i : Nat) : (a.childIndices i).length ≤ a.linkCount := by
  unfold childIndices get? linkCount
  cases h : a.slots[i]? with
  | none => simp
  | some s =>
    have hs : s ∈ a.slots.toList := by
      rw [← Array.getElem?_toList] at h
      exact List.mem_of_getElem? h
    exact length_le_flatMap hs

/-- More than the links below one pending number can push. -/
def weight (p : Nat × Nat) : Nat := Nat.pow (a.linkCount + 1) p.1

theorem weight_pos (p : Nat × Nat) : 0 < a.weight p := Nat.pow_pos (Nat.succ_pos _)

def stackWeight : List (Nat × Nat) → Nat
  | [] => 0
  | p :: rest => a.weight p + stackWeight rest

theorem stackWeight_append (s t : List (Nat × Nat)) :
    a.stackWeight (s ++ t) = a.stackWeight s + a.stackWeight t := by
  induction s with
  | nil => simp [stackWeight]
  | cons p s ih => simp only [List.cons_append, stackWeight, ih]; omega

theorem stackWeight_map (b : Nat) (l : List Nat) :
    a.stackWeight (l.map fun c => (b, c)) = l.length * a.weight (b, 0) := by
  induction l with
  | nil => simp [stackWeight]
  | cons c l ih =>
    rw [List.map_cons, stackWeight, ih, List.length_cons, Nat.succ_mul, Nat.add_comm]
    rfl

theorem weight_succ (b i : Nat) : a.weight (b + 1, i) = a.weight (b, 0) * (a.linkCount + 1) := rfl

theorem stackWeight_children_lt (b i : Nat) :
    a.stackWeight ((a.childIndices i).map fun c => (b, c)) < a.weight (b + 1, i) := by
  rw [stackWeight_map, weight_succ, Nat.mul_comm]
  exact Nat.mul_lt_mul_of_pos_left (Nat.lt_succ_of_le (a.length_childIndices_le i))
    (a.weight_pos (b, 0))

/-- Depth first, from a stack of pending numbers with the depth still allowed below them. -/
def walkFrom : List (Nat × Nat) → List Nat
  | [] => []
  | (0, i) :: rest => i :: walkFrom rest
  | (b + 1, i) :: rest => i :: walkFrom ((a.childIndices i).map (fun c => (b, c)) ++ rest)
termination_by stack => a.stackWeight stack
decreasing_by
  · have := a.weight_pos (0, i)
    simp only [stackWeight]; omega
  · have := a.stackWeight_children_lt b i
    simp only [stackWeight_append, stackWeight, Nat.succ_eq_add_one]; omega

/-- What is reachable from the roots, depth first in child order. -/
def walk : List Nat := a.walkFrom (a.roots.map fun i => (a.size, i))

def length : Nat := a.walk.length

def findById (id : String) : Option Nat :=
  a.walk.find? fun i => ((a.get? i).map fun s => s.element.props.id == id).getD false

end Walk

section Compare
variable [BEq (Element α)] (a b : Arena α)

def subtreeEq : Nat → Nat → Nat → Bool
  | 0, _, _ => false
  | n + 1, i, j =>
    match a.get? i, b.get? j with
    | some s, some t =>
      s.element == t.element && s.children.length == t.children.length &&
        (s.children.zip t.children).all fun p => subtreeEq n p.1 p.2
    | _, _ => false

def structurallyEq : Bool :=
  a.roots.length == b.roots.length &&
    (a.roots.zip b.roots).all fun p => subtreeEq a b (a.size + 1) p.1 p.2

end Compare

section Place
variable [Scalar α] (a : Arena α)

/-- Moves a box from the space of a slot's parent to that of the roots. -/
def toRootSpace : Nat → Option Nat → Box α → Except UnknownNode (Box α)
  | _, none, b => .ok b
  | 0, some _, b => .ok b
  | n + 1, some p, b => do
    let s ← a.get p
    let g := s.element.props.geometry
    toRootSpace n s.parent (b.shift g.x g.y)

def absoluteBounds (i : Nat) : Except UnknownNode (Box α) := do
  let s ← a.get i
  a.toRootSpace a.size s.parent s.element.props.bounds

end Place

end Arena

end Artboard
