import Artboard.Layout.Flow
import Artboard.Geometry.Affine
import Artboard.Style.Typography
import Artboard.Json.Value

/-!
# Elements

One design element on its own: its kind, with what only that kind has, and the properties every
kind shares. An element knows neither its parent nor its children.
-/

namespace Artboard

inductive Shape
  | vector
  | star
  | polygon
  deriving DecidableEq, Repr

inductive SizingMode
  | fixed
  | hug
  deriving DecidableEq, Repr, Inhabited

inductive Origin
  | explicit
  | inferred
  deriving DecidableEq, Repr, Inhabited

structure ContainerLayout (α : Type) where
  flow : Flow
  origin : Origin
  horizontalSizing : SizingMode
  verticalSizing : SizingMode
  padding : Padding α
  itemSpacing : α
  distribution : Distribution
  alignment : Alignment
  clips : Bool
  deriving BEq

namespace ContainerLayout

variable {α : Type} [Scalar α]

def freeForm (clips : Bool) : ContainerLayout α :=
  { flow := .free, origin := .explicit, horizontalSizing := .fixed, verticalSizing := .fixed,
    padding := default, itemSpacing := 0, distribution := .start, alignment := .start, clips }

def sizing (l : ContainerLayout α) : Axis → SizingMode
  | .horizontal => l.horizontalSizing
  | .vertical => l.verticalSizing

def setSizing (l : ContainerLayout α) (mode : SizingMode) : Axis → ContainerLayout α
  | .horizontal => { l with horizontalSizing := mode }
  | .vertical => { l with verticalSizing := mode }

end ContainerLayout

/-- A `boolean` is the result of an operation on shapes, drawn as a picture. -/
inductive Kind (α : Type)
  | rectangle
  | ellipse
  | line
  | shape (shape : Shape)
  | group
  | container (layout : ContainerLayout α)
  | text (content : TextContent)
  | boolean
  deriving BEq

namespace Kind

variable {α : Type}

def label : Kind α → String
  | rectangle => "rectangle"
  | ellipse => "ellipse"
  | line => "line"
  | shape .vector => "vector"
  | shape .star => "star"
  | shape .polygon => "polygon"
  | group => "group"
  | container _ => "container"
  | text _ => "text"
  | boolean => "boolean placeholder"

def layout? : Kind α → Option (ContainerLayout α)
  | container l => some l
  | _ => none

def content? : Kind α → Option TextContent
  | text c => some c
  | _ => none

def flow (k : Kind α) : Flow := (k.layout?.map (·.flow)).getD .free

def isParent : Kind α → Bool
  | container _ | group => true
  | _ => false

end Kind

structure Props (α : Type) where
  id : String
  name : String
  geometry : Geometry α
  /-- The box around the turned element, in its parent's space. -/
  bounds : Box α
  visible : Bool
  opacity : α
  blendMode : BlendMode
  fills : List Paint
  strokes : List Paint
  strokeWeight : Mixed Float
  strokeAlign : StrokeAlign
  cornerRadii : CornerRadii
  effects : List Effect
  layoutGrow : α
  layoutAlign : LayoutAlign
  properties : List (String × Json)
  deriving BEq

namespace Props

variable {α : Type} [Scalar α]

def shift (p : Props α) (dx dy : α) : Props α :=
  { p with geometry := p.geometry.shift dx dy, bounds := p.bounds.shift dx dy }

def plain (id name : String) (geometry : Geometry α) (bounds : Box α) : Props α :=
  { id, name, geometry, bounds, visible := true, opacity := 1, blendMode := default, fills := [],
    strokes := [], strokeWeight := default, strokeAlign := default, cornerRadii := default,
    effects := [], layoutGrow := 0, layoutAlign := default, properties := [] }

end Props

structure Element (α : Type) where
  kind : Kind α
  props : Props α
  deriving BEq

namespace Element

variable {α : Type} [Scalar α]

def boolean (p : Props α) : Element α := ⟨.boolean, { p with fills := [Paint.placeholder] }⟩

def flow (e : Element α) : Flow := e.kind.flow

def length (e : Element α) (axis : Axis) : α := e.props.geometry.length axis

def shift (e : Element α) (dx dy : α) : Element α :=
  { e with props := e.props.shift dx dy }

/-- Whether an element asks a parent with this flow to stretch it along an axis: by its share on
the main axis, by its alignment on the other. -/
def claimsFill (parentFlow : Flow) (e : Element α) (axis : Axis) : Bool :=
  match parentFlow.mainAxis with
  | none => false
  | some main => if axis = main then 0 < e.props.layoutGrow else e.props.layoutAlign = .stretch

end Element

end Artboard
