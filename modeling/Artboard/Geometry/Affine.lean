import Artboard.Geometry.Box
import Artboard.Number.Decimal

/-!
# Affine maps

Maps of the plane, and the box around a turned rectangle. Angles are in degrees, whatever a scalar
has for cosines and sines.
-/

namespace Artboard

class Circular (α : Type) where
  cosine : α → α
  sine : α → α
  /-- The angle of the vector `(x, y)`, given as `angle y x`. -/
  angle : α → α → α

def halfTurn : Float := 3.141592653589793

instance : Circular Float where
  cosine d := Float.cos (d * (halfTurn / 180))
  sine d := Float.sin (d * (halfTurn / 180))
  angle y x := Float.atan2 y x * (180 / halfTurn)

structure Point (α : Type) where
  x : α
  y : α
  deriving BEq, Inhabited

/-- The map `(x, y) ↦ (a x + c y + tx, b x + d y + ty)`. -/
structure Affine (α : Type) where
  a : α
  b : α
  c : α
  d : α
  tx : α
  ty : α
  deriving BEq, Inhabited

namespace Affine

variable {α : Type} (m n : Affine α)

def rows : (α × α × α) × (α × α × α) := ((m.a, m.c, m.tx), (m.b, m.d, m.ty))

def ofRows : (α × α × α) × (α × α × α) → Affine α
  | ((a, c, tx), (b, d, ty)) => ⟨a, b, c, d, tx, ty⟩

variable [Scalar α]

def identity : Affine α := ⟨1, 0, 0, 1, 0, 0⟩

def shift (x y : α) : Affine α := ⟨1, 0, 0, 1, x, y⟩

def turn (cosine sine : α) : Affine α := ⟨cosine, sine, -sine, cosine, 0, 0⟩

def applyVector (p : Point α) : Point α := ⟨m.a * p.x + m.c * p.y, m.b * p.x + m.d * p.y⟩

def apply (p : Point α) : Point α :=
  let v := m.applyVector p
  ⟨v.x + m.tx, v.y + m.ty⟩

/-- First `n`, then `m`. -/
def mul : Affine α :=
  let x := m.applyVector ⟨n.a, n.b⟩
  let y := m.applyVector ⟨n.c, n.d⟩
  let t := m.apply ⟨n.tx, n.ty⟩
  ⟨x.x, x.y, y.x, y.y, t.x, t.y⟩

def det : α := m.a * m.d - m.b * m.c

def inverse : Affine α :=
  let i := 1 / m.det
  let linear : Affine α := ⟨m.d * i, m.b * -i, m.c * -i, m.a * i, 0, 0⟩
  let t := linear.applyVector ⟨m.tx, m.ty⟩
  { linear with tx := -t.x, ty := -t.y }

def corners (width height : α) : List (Point α) :=
  [m.apply ⟨0, 0⟩, m.apply ⟨width, 0⟩, m.apply ⟨width, height⟩, m.apply ⟨0, height⟩]

def boundingBox (width height : α) : Box α :=
  let xs := (m.corners width height).map (·.x)
  let ys := (m.corners width height).map (·.y)
  let x := Scalar.leastOf xs
  let y := Scalar.leastOf ys
  ⟨x, y, Scalar.greatestOf xs - x, Scalar.greatestOf ys - y⟩

end Affine

namespace Geometry

variable {α : Type} [Scalar α] [Circular α] (g : Geometry α)

/-- From the node's own space into its parent's. Turning counter-clockwise on a screen whose `y`
points down is a negative angle. -/
def transform : Affine α :=
  (Affine.shift g.x g.y).mul
    (Affine.turn (Circular.cosine (-g.rotation)) (Circular.sine (-g.rotation)))

def boundingBox : Box α :=
  if g.isRotated then g.transform.boundingBox g.width g.height else g.box

end Geometry

end Artboard
