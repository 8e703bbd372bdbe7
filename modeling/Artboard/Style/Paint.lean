import Artboard.Style.Color
import Artboard.Geometry.Affine

/-!
# Paints

What fills a shape or its outline, complete in itself.
-/

namespace Artboard

structure GradientStop where
  position : Float
  color : Color
  deriving BEq

structure Gradient where
  stops : List GradientStop
  transform : Affine Float
  opacity : Float
  deriving BEq

inductive ScaleMode
  | fill
  | fit
  | crop
  | tile
  deriving DecidableEq, Repr, Inhabited

/-- A stand-in for a picture that is not at hand. -/
structure Picture where
  reference : Option String
  scaleMode : ScaleMode
  opacity : Float
  deriving BEq

inductive Paint
  | solid (color : Color) (opacity : Float)
  | linear (gradient : Gradient)
  | radial (gradient : Gradient)
  | angular (gradient : Gradient)
  | image (picture : Picture)
  deriving BEq

namespace Paint

def ofColor (c : Color) : Paint := solid c 1

def placeholder : Paint := image ⟨none, .fill, 1⟩

def opacity : Paint → Float
  | solid _ o => o
  | linear g | radial g | angular g => g.opacity
  | image p => p.opacity

def solidColor? : Paint → Option Color
  | solid c o => some (c.withOpacity o)
  | _ => none

def gradient? : Paint → Option Gradient
  | linear g | radial g | angular g => some g
  | _ => none

end Paint

end Artboard
