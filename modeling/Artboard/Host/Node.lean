import Artboard.Style.Typography
import Artboard.Json.Value

/-!
# Host nodes

The design tool's own tree, as it is handed over: what the tool knows about each node, before any
of it is interpreted. Coordinates are relative to the parent, children stand in paint order.
-/

namespace Artboard

/-- What the host calls a node. `other` holds every name that stands for nothing known. -/
inductive HostKind
  | rectangle
  | ellipse
  | line
  | vector
  | star
  | polygon
  | frame
  | component
  | componentSet
  | componentInstance
  | canvasSection
  | group
  | text
  | booleanOperation
  | other (name : String)
  deriving DecidableEq, Repr

inductive HostLayoutMode
  | none
  | horizontal
  | vertical
  deriving DecidableEq, Repr, Inhabited

inductive HostSizingMode
  | fixed
  | auto
  deriving DecidableEq, Repr, Inhabited

inductive HostPrimaryAlign
  | start
  | center
  | stop
  | spaceBetween
  deriving DecidableEq, Repr, Inhabited

inductive HostCounterAlign
  | start
  | center
  | stop
  | baseline
  deriving DecidableEq, Repr, Inhabited

structure HostGradient where
  stops : List GradientStop
  transform : Affine Float
  opacity : Float
  visible : Bool
  deriving BEq

inductive HostPaint
  | solid (color : Color) (opacity : Float) (visible : Bool)
  | linear (gradient : HostGradient)
  | radial (gradient : HostGradient)
  | angular (gradient : HostGradient)
  | image (hash : Option String) (scaleMode : ScaleMode) (opacity : Float) (visible : Bool)
  | unsupported
  deriving BEq

def HostPaint.isVisible : HostPaint → Bool
  | solid _ _ v | image _ _ _ v => v
  | linear g | radial g | angular g => g.visible
  | unsupported => true

structure HostSegment where
  characters : String
  font : Font
  weight : Nat
  size : Float
  lineHeight : LineHeight
  letterSpacing : LetterSpacing
  decoration : TextDecoration
  case : TextCase
  fills : List HostPaint
  deriving BEq

structure HostProps (α : Type) where
  id : String
  name : String
  kind : HostKind
  geometry : Geometry α
  visible : Bool
  opacity : α
  blendMode : BlendMode
  fills : Mixed (List HostPaint)
  strokes : List HostPaint
  strokeWeight : Mixed Float
  strokeAlign : StrokeAlign
  cornerRadius : Mixed Float
  topLeftRadius : Option Float
  topRightRadius : Option Float
  bottomRightRadius : Option Float
  bottomLeftRadius : Option Float
  effects : List Effect
  layoutGrow : α
  layoutAlign : LayoutAlign
  layoutMode : Option HostLayoutMode
  primarySizing : HostSizingMode
  counterSizing : HostSizingMode
  primaryAlign : HostPrimaryAlign
  counterAlign : HostCounterAlign
  paddingLeft : α
  paddingRight : α
  paddingTop : α
  paddingBottom : α
  itemSpacing : α
  clipsContent : Bool
  characters : Option String
  fontSize : Mixed Float
  font : Mixed Font
  textAlign : TextAlign
  textAlignVertical : TextAlignVertical
  textAutoResize : TextAutoResize
  segments : List HostSegment
  extra : List (String × Json)

def HostProps.plain {α : Type} [Scalar α] (id name : String) (kind : HostKind)
    (geometry : Geometry α) : HostProps α :=
  { id, name, kind, geometry, visible := true, opacity := 1, blendMode := default,
    fills := default, strokes := [], strokeWeight := default, strokeAlign := default,
    cornerRadius := default, topLeftRadius := none, topRightRadius := none,
    bottomRightRadius := none, bottomLeftRadius := none, effects := [], layoutGrow := 0,
    layoutAlign := default, layoutMode := none, primarySizing := default,
    counterSizing := default, primaryAlign := default, counterAlign := default,
    paddingLeft := 0, paddingRight := 0, paddingTop := 0, paddingBottom := 0, itemSpacing := 0,
    clipsContent := false, characters := none, fontSize := default, font := default,
    textAlign := default, textAlignVertical := default, textAutoResize := default,
    segments := [], extra := [] }

inductive HostNode (α : Type)
  | node (props : HostProps α) (children : List (HostNode α))

namespace HostNode

variable {α : Type}

def props : HostNode α → HostProps α
  | node p _ => p

def children : HostNode α → List (HostNode α)
  | node _ cs => cs

end HostNode

end Artboard
