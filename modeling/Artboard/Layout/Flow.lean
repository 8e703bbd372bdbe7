import Artboard.Geometry.Box

/-!
# Flows

How a container arranges its children, and the numbers that go with it.
-/

namespace Artboard

inductive Flow
  | free
  | row
  | column
  deriving DecidableEq, Repr, Inhabited

namespace Flow

def mainAxis : Flow → Option Axis
  | free => none
  | row => some .horizontal
  | column => some .vertical

def isFlow : Flow → Bool
  | free => false
  | row | column => true

def transpose : Flow → Flow
  | free => free
  | row => column
  | column => row

end Flow

inductive Alignment
  | start
  | center
  | stop
  | baseline
  deriving DecidableEq, Repr, Inhabited

inductive Distribution
  | start
  | center
  | stop
  | spaceBetween
  deriving DecidableEq, Repr, Inhabited

structure Padding (α : Type) where
  top : α
  right : α
  bottom : α
  left : α
  deriving BEq

namespace Padding

variable {α : Type} [Scalar α] (p : Padding α)

def uniform (a : α) : Padding α := ⟨a, a, a, a⟩

instance : Inhabited (Padding α) := ⟨uniform 0⟩

def horizontal : α := p.left + p.right

def vertical : α := p.top + p.bottom

def isZero : Bool := p.top == 0 && p.right == 0 && p.bottom == 0 && p.left == 0

def isUniform : Bool := p.top == p.right && p.right == p.bottom && p.bottom == p.left

def transpose : Padding α := ⟨p.left, p.bottom, p.right, p.top⟩

end Padding

/-- How far, in pixels, boxes may miss and still count: consecutive children may overlap by `gap`,
a child may poke out of a background by `containment`, and aligned edges may differ by
`alignment`. -/
structure Tolerances (α : Type) where
  gap : α
  containment : α
  alignment : α
  deriving BEq

instance {α : Type} [Scalar α] : Inhabited (Tolerances α) := ⟨1, 0.5, 0.5⟩

end Artboard
