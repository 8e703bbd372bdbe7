import Artboard.Number.Scalar

/-!
# Boxes

Axis-aligned boxes, and the placement of a node inside its parent. The `Axis` argument lets one
definition speak of rows and columns alike.
-/

namespace Artboard

inductive Axis
  | horizontal
  | vertical
  deriving DecidableEq, Repr

def Axis.cross : Axis → Axis
  | .horizontal => .vertical
  | .vertical => .horizontal

structure Box (α : Type) where
  x : α
  y : α
  width : α
  height : α
  deriving BEq, Inhabited

namespace Box

variable {α : Type} [Scalar α] (b c : Box α)

def right : α := b.x + b.width

def bottom : α := b.y + b.height

def start : Axis → α
  | .horizontal => b.x
  | .vertical => b.y

def stop : Axis → α
  | .horizontal => b.right
  | .vertical => b.bottom

def extent : Axis → α
  | .horizontal => b.width
  | .vertical => b.height

def contains (tolerance : α) : Bool :=
  b.x - tolerance ≤ c.x && b.y - tolerance ≤ c.y &&
    c.right ≤ b.right + tolerance && c.bottom ≤ b.bottom + tolerance

def union : Box α :=
  let x := Scalar.least b.x c.x
  let y := Scalar.least b.y c.y
  ⟨x, y, Scalar.greatest b.right c.right - x, Scalar.greatest b.bottom c.bottom - y⟩

def shift (dx dy : α) : Box α := { b with x := b.x + dx, y := b.y + dy }

def transpose : Box α := ⟨b.y, b.x, b.height, b.width⟩

end Box

/-- Where a node sits in its parent. The origin is the unrotated top-left corner; a positive
rotation, in degrees, turns counter-clockwise about it on screen. -/
structure Geometry (α : Type) where
  x : α
  y : α
  width : α
  height : α
  rotation : α
  deriving BEq, Inhabited

namespace Geometry

variable {α : Type} [Scalar α] (g : Geometry α)

/-- No finite place, a negative size, or no size at all. A line has one extent and is kept. -/
def isDegenerate : Bool :=
  !(Scalar.isFinite g.width && Scalar.isFinite g.height &&
      Scalar.isFinite g.x && Scalar.isFinite g.y) ||
    g.width < 0 || g.height < 0 || (g.width == 0 && g.height == 0)

/-- Angles up to the distance from `1` to the next binary64 number count as none. -/
def isRotated : Bool := 1 / 4503599627370496 < Scalar.magnitude g.rotation

def box : Box α := ⟨g.x, g.y, g.width, g.height⟩

def length : Axis → α
  | .horizontal => g.width
  | .vertical => g.height

def shift (dx dy : α) : Geometry α := { g with x := g.x + dx, y := g.y + dy }

end Geometry

end Artboard
