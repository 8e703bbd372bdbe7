import Artboard.Scene.Element

/-!
# Sources

What normalization starts from, whether it was read from a host or taken from a tree normalized
before. A draft holds all there is to know of one node; its snapshot is the element made of it.
-/

namespace Artboard

inductive SourceKind
  | rectangle
  | ellipse
  | line
  | shape (shape : Shape)
  | container
  | group
  | text
  | boolean
  | unsupported (name : String)
  deriving DecidableEq, Repr

namespace SourceKind

def label : SourceKind → String
  | rectangle => "rectangle"
  | ellipse => "ellipse"
  | line => "line"
  | shape .vector => "vector"
  | shape .star => "star"
  | shape .polygon => "polygon"
  | container => "container"
  | group => "group"
  | text => "text"
  | boolean => "boolean operation"
  | unsupported name => name

def hasChildren : SourceKind → Bool
  | container | group => true
  | _ => false

def isSupported : SourceKind → Bool
  | unsupported _ => false
  | _ => true

end SourceKind

/-- One node, its children apart. The bounds among its properties are yet to be computed. -/
structure Draft (α : Type) where
  kind : SourceKind
  props : Props α
  clips : Bool
  /-- The layout it declares for its children; without one they are free and inference may run. -/
  declared : Option (ContainerLayout α)
  content : TextContent
  propsWarnings : List String
  contentWarnings : List String

inductive Source (α : Type)
  | node (draft : Draft α) (children : List (Source α))

namespace Source

variable {α : Type}

def draft : Source α → Draft α
  | node d _ => d

def children : Source α → List (Source α)
  | node _ cs => cs

end Source

/-- Host properties that are computed, say where a node sits, or link back into the document. -/
def blockedProperties : List String :=
  ["parent", "children", "absoluteTransform", "absoluteBoundingBox", "absoluteRenderBounds",
    "relativeTransform", "mainComponent", "masterComponent", "instances", "exposedInstances",
    "componentPropertyDefinitions", "componentPropertyReferences", "componentProperties",
    "variantProperties", "horizontalPadding", "verticalPadding", "constrainProportions"]

def isBlocked (name : String) : Bool := blockedProperties.contains name

namespace Draft

variable {α : Type} [Scalar α] (d : Draft α)

/-- Nodes that are hidden, of an unsupported kind or degenerate leave nothing behind. -/
def isKept : Bool :=
  d.props.visible && d.kind.isSupported && !d.props.geometry.isDegenerate

variable [Circular α]

def snapshotProps : Props α :=
  { d.props with
    properties := d.props.properties.filter fun p => !isBlocked p.1
    bounds := d.props.geometry.boundingBox }

def snapshot : Option (Element α) :=
  let props := d.snapshotProps
  match d.kind with
  | .rectangle => some ⟨.rectangle, props⟩
  | .ellipse => some ⟨.ellipse, props⟩
  | .line => some ⟨.line, props⟩
  | .shape s => some ⟨.shape s, props⟩
  | .group => some ⟨.group, props⟩
  | .container => some ⟨.container (d.declared.getD (.freeForm d.clips)), props⟩
  | .text => some ⟨.text d.content, props⟩
  | .boolean => some (.boolean props)
  | .unsupported _ => none

omit [Scalar α] [Circular α] in
def snapshotWarnings : List String :=
  match d.kind with
  | .text => d.propsWarnings ++ d.contentWarnings
  | _ => d.propsWarnings

end Draft

end Artboard
