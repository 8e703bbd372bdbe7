import Artboard.Scene.Sizing

/-!
# Branches

A tree unfolded from an arena: every element with what it has to know of its surroundings, and the
branches below it. Output formats are written for branches and know nothing of slots.
-/

namespace Artboard

structure Site (α : Type) where
  element : Element α
  parentFlow : Option Flow
  /-- Whether children are linked to it, be they shown or not. -/
  isLinked : Bool

namespace Site

variable {α : Type} [Scalar α] (s : Site α)

def sizing (axis : Axis) : AxisSizing α := s.element.sizing s.parentFlow axis

def isAbsolute : Bool := s.parentFlow == some .free

def hostsAbsolute : Bool := s.isLinked && !s.element.flow.isFlow

def isMainAxis (axis : Axis) : Bool := (s.parentFlow.bind Flow.mainAxis) == some axis

end Site

inductive Branch (α : Type)
  | node (site : Site α) (children : List (Branch α))

namespace Branch

variable {α : Type}

def site : Branch α → Site α
  | node s _ => s

def children : Branch α → List (Branch α)
  | node _ cs => cs

end Branch

namespace Slot

variable {α : Type} (s : Slot α)

/-- Only containers and groups show what is linked to them. -/
def shown : List Nat := if s.element.kind.isParent then s.children else []

end Slot

namespace Arena

variable {α : Type} (a : Arena α)

def site (s : Slot α) : Except UnknownNode (Site α) := do
  return ⟨s.element, ← a.parentFlow s.parent, !s.children.isEmpty⟩

/-- Unfolds below a number. The first number that names no slot, depth first, is an error. -/
def branch : Nat → Nat → Except UnknownNode (Branch α)
  | budget, i => do
    let s ← a.get i
    let site ← a.site s
    match budget with
    | 0 => return .node site []
    | n + 1 => return .node site (← s.shown.mapM (branch n))

def branches : Except UnknownNode (List (Branch α)) := a.roots.mapM (a.branch a.size)

/-- Unfolds with the parent of a slot looked up after all that is below the slot. Another unknown
number may then be the first. -/
def branchFromBelow : Nat → Nat → Except UnknownNode (Branch α)
  | budget, i => do
    let s ← a.get i
    match budget with
    | 0 => return .node (← a.site s) []
    | n + 1 => do
      let children ← s.shown.mapM (branchFromBelow n)
      return .node (← a.site s) children

def branchesFromBelow : Except UnknownNode (List (Branch α)) :=
  a.roots.mapM (a.branchFromBelow a.size)

end Arena

end Artboard
