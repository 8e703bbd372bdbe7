import Artboard.Geometry.Affine

/-!
# Gradient directions

The direction of a linear gradient, and the compass point nearest to it.
-/

namespace Artboard

namespace Affine

variable {α : Type} [Scalar α] (m : Affine α)

def tiny : α := 1e-12

/-- The vector from the start handle to the end handle in node space, for a map into gradient
space, where the gradient runs from `(0, 1/2)` to `(1, 1/2)`. -/
def handles? : Option (Point α) :=
  if Scalar.magnitude m.det < tiny then none
  else
    let start := m.inverse.apply ⟨0, 0.5⟩
    let stop := m.inverse.apply ⟨1, 0.5⟩
    let dx := stop.x - start.x
    let dy := stop.y - start.y
    if !(Scalar.isFinite dx && Scalar.isFinite dy) || dx * dx + dy * dy < tiny then none
    else some ⟨dx, dy⟩

def gradient (cosine sine : α) : Affine α :=
  (((shift 0.5 0.5).mul (turn cosine sine)).mul (shift (-0.5) (-0.5))).inverse

variable [Circular α]

/-- The direction of the gradient in degrees, `0` to the right and `90` down. -/
def gradientAngle : α :=
  match m.handles? with
  | some v => Circular.angle v.y v.x
  | none => 0

def ofGradientAngle (degrees : α) : Affine α :=
  gradient (Circular.cosine degrees) (Circular.sine degrees)

end Affine

/-- The compass points, in the order that settles ties. -/
inductive Compass
  | leftToRight
  | topLeftToBottomRight
  | topToBottom
  | topRightToBottomLeft
  | rightToLeft
  | bottomRightToTopLeft
  | bottomToTop
  | bottomLeftToTopRight
  deriving DecidableEq, Repr

namespace Compass

def all : List Compass :=
  [.leftToRight, .topLeftToBottomRight, .topToBottom, .topRightToBottomLeft,
    .rightToLeft, .bottomRightToTopLeft, .bottomToTop, .bottomLeftToTopRight]

variable {α : Type} [Scalar α]

def angle : Compass → α
  | .leftToRight => 0
  | .topLeftToBottomRight => 45
  | .topToBottom => 90
  | .topRightToBottomLeft => 135
  | .rightToLeft => 180
  | .bottomRightToTopLeft => -135
  | .bottomToTop => -90
  | .bottomLeftToTopRight => -45

def arc (a b : α) : α :=
  let d := Scalar.wrap (a - b) 360
  Scalar.least d (360 - d)

def closest (a : α) (best : Compass) : List Compass → Compass
  | [] => best
  | c :: rest => closest a (if arc a c.angle < arc a best.angle then c else best) rest

def ofAngle (a : α) : Compass :=
  if Scalar.isFinite a then closest a .leftToRight all else .leftToRight

def clockDegrees (a : α) : α := Scalar.wrap (a + 90) 360

end Compass

end Artboard
