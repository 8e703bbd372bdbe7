import Artboard.Style.Color
import Artboard.Geometry.Affine

/-!
# Effects and outlines

Shadows, blurs, blend modes and corner radii.
-/

namespace Artboard

inductive Mixed (α : Type)
  | known (value : α)
  | indeterminate
  deriving BEq

namespace Mixed

variable {α β : Type}

instance [Inhabited α] : Inhabited (Mixed α) := ⟨known default⟩

def known? : Mixed α → Option α
  | known a => some a
  | indeterminate => none

def isIndeterminate : Mixed α → Bool
  | known _ => false
  | indeterminate => true

def map (f : α → β) : Mixed α → Mixed β
  | known a => known (f a)
  | indeterminate => indeterminate

def getD (m : Mixed α) (fallback : α) : α := m.known?.getD fallback

end Mixed

structure Shadow where
  color : Color
  offset : Point Float
  radius : Float
  spread : Float
  visible : Bool
  deriving BEq

structure Blur where
  radius : Float
  visible : Bool
  deriving BEq

inductive Effect
  | dropShadow (shadow : Shadow)
  | innerShadow (shadow : Shadow)
  | layerBlur (blur : Blur)
  | backgroundBlur (blur : Blur)
  deriving BEq

def Effect.isVisible : Effect → Bool
  | dropShadow s | innerShadow s => s.visible
  | layerBlur b | backgroundBlur b => b.visible

inductive BlendMode
  | passThrough
  | normal
  | darken
  | multiply
  | colorBurn
  | lighten
  | screen
  | colorDodge
  | overlay
  | softLight
  | hardLight
  | difference
  | exclusion
  | hue
  | saturation
  | color
  | luminosity
  deriving DecidableEq, Repr, Inhabited

inductive StrokeAlign
  | inside
  | center
  | outside
  deriving DecidableEq, Repr, Inhabited

inductive LayoutAlign
  | inherit
  | stretch
  | start
  | center
  | stop
  deriving DecidableEq, Repr, Inhabited

inductive CornerRadii
  | uniform (radius : Float)
  | perCorner (topLeft topRight bottomRight bottomLeft : Float)
  deriving BEq

namespace CornerRadii

instance : Inhabited CornerRadii := ⟨uniform 0⟩

def ofCorners (topLeft topRight bottomRight bottomLeft : Float) : CornerRadii :=
  if topLeft == topRight && topRight == bottomRight && bottomRight == bottomLeft then
    uniform topLeft
  else perCorner topLeft topRight bottomRight bottomLeft

def isZero : CornerRadii → Bool
  | uniform r => r == 0
  | perCorner tl tr br bl => tl == 0 && tr == 0 && br == 0 && bl == 0

end CornerRadii

end Artboard
