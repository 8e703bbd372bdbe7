import Artboard.Host.Node
import Artboard.Normal.Source

/-!
# Host nodes as sources

How the host's properties are interpreted: paints that can be drawn, corner radii, declared
layouts, and the runs of a text.
-/

namespace Artboard

def unsupportedPaintWarning : String := "Unsupported paint kind dropped"

def HostGradient.toGradient (g : HostGradient) : Gradient := ⟨g.stops, g.transform, g.opacity⟩

namespace HostPaint

def toPaint? : HostPaint → Option Paint
  | solid c o _ => some (.solid c o)
  | linear g => some (.linear g.toGradient)
  | radial g => some (.radial g.toGradient)
  | angular g => some (.angular g.toGradient)
  | image hash mode o _ => some (.image ⟨hash, mode, o⟩)
  | unsupported => none

def toPaints (l : List HostPaint) : List Paint := (l.filter isVisible).filterMap toPaint?

def warnings (l : List HostPaint) : List String :=
  ((l.filter isVisible).filter fun p => p.toPaint?.isNone).map fun _ => unsupportedPaintWarning

end HostPaint

/-- The paints of a node's fills; where they differ by character they are left to its runs. -/
def fillsOf (m : Mixed (List HostPaint)) : List HostPaint := m.known?.getD []

namespace HostSegment

def toRun (s : HostSegment) : TextRun where
  characters := s.characters
  font := s.font
  weight := s.weight
  size := s.size
  lineHeight := s.lineHeight
  letterSpacing := s.letterSpacing
  decoration := s.decoration
  case := s.case
  fills := HostPaint.toPaints s.fills

end HostSegment

def HostKind.toSource : HostKind → SourceKind
  | rectangle => .rectangle
  | ellipse => .ellipse
  | line => .line
  | vector => .shape .vector
  | star => .shape .star
  | polygon => .shape .polygon
  | frame | component | componentSet | componentInstance | canvasSection => .container
  | group => .group
  | text => .text
  | booleanOperation => .boolean
  | other name => .unsupported name

def HostSizingMode.toSizing : HostSizingMode → SizingMode
  | fixed => .fixed
  | auto => .hug

def HostPrimaryAlign.toDistribution : HostPrimaryAlign → Distribution
  | start => .start
  | center => .center
  | stop => .stop
  | spaceBetween => .spaceBetween

def HostCounterAlign.toAlignment : HostCounterAlign → Alignment
  | start => .start
  | center => .center
  | stop => .stop
  | baseline => .baseline

namespace HostProps

variable {α : Type} (p : HostProps α)

def cornerRadii : CornerRadii :=
  let common := p.cornerRadius.getD 0
  match p.topLeftRadius, p.topRightRadius, p.bottomRightRadius, p.bottomLeftRadius with
  | none, none, none, none => .uniform common
  | tl, tr, br, bl =>
    .ofCorners (tl.getD common) (tr.getD common) (br.getD common) (bl.getD common)

def declaredFlow? : Option Flow :=
  match p.layoutMode with
  | some .horizontal => some .row
  | some .vertical => some .column
  | some .none | none => none

/-- The primary axis is the one children advance along. -/
def declared? : Option (ContainerLayout α) :=
  p.declaredFlow?.map fun flow =>
    let primary := p.primarySizing.toSizing
    let counter := p.counterSizing.toSizing
    { flow
      origin := .explicit
      horizontalSizing := if flow = .column then counter else primary
      verticalSizing := if flow = .column then primary else counter
      padding := ⟨p.paddingTop, p.paddingRight, p.paddingBottom, p.paddingLeft⟩
      itemSpacing := p.itemSpacing
      distribution := p.primaryAlign.toDistribution
      alignment := p.counterAlign.toAlignment
      clips := p.clipsContent }

def text : String := p.characters.getD ""

def fallbackSize : Float := 12

def wholeRun : TextRun where
  characters := p.text
  font := p.font.getD default
  weight := 400
  size := match p.fontSize with
    | .known s => if 0 < s then s else fallbackSize
    | .indeterminate => fallbackSize
  lineHeight := default
  letterSpacing := default
  decoration := default
  case := default
  fills := HostPaint.toPaints (fillsOf p.fills)

def runs : List TextRun :=
  if !p.segments.isEmpty then p.segments.map (·.toRun)
  else if p.text.isEmpty then []
  else [p.wholeRun]

def content : TextContent where
  characters := p.text
  fontSize := p.fontSize
  font := p.font
  alignHorizontal := p.textAlign
  alignVertical := p.textAlignVertical
  autoResize := p.textAutoResize
  runs := p.runs

variable [Scalar α]

def mixedStyleWarning : String :=
  "Text '" ++ p.name ++ "' at (" ++ Scalar.text p.geometry.x ++ ", " ++
    Scalar.text p.geometry.y ++ ") has mixed styles but no styled segments; using defaults"

def contentWarnings : List String :=
  if !p.segments.isEmpty then p.segments.flatMap fun s => HostPaint.warnings s.fills
  else if p.text.isEmpty then []
  else
    (if p.fontSize.isIndeterminate || p.font.isIndeterminate then [p.mixedStyleWarning] else []) ++
      HostPaint.warnings (fillsOf p.fills)

def toProps : Props α where
  id := p.id
  name := p.name
  geometry := p.geometry
  bounds := default
  visible := p.visible
  opacity := Scalar.clamp 0 1 p.opacity
  blendMode := p.blendMode
  fills := HostPaint.toPaints (fillsOf p.fills)
  strokes := HostPaint.toPaints p.strokes
  strokeWeight := p.strokeWeight
  strokeAlign := p.strokeAlign
  cornerRadii := p.cornerRadii
  effects := p.effects.filter Effect.isVisible
  layoutGrow := p.layoutGrow
  layoutAlign := p.layoutAlign
  properties := p.extra

def toDraft : Draft α where
  kind := p.kind.toSource
  props := p.toProps
  clips := p.clipsContent
  declared := p.declared?
  content := p.content
  propsWarnings := HostPaint.warnings (fillsOf p.fills) ++ HostPaint.warnings p.strokes
  contentWarnings := p.contentWarnings

end HostProps

namespace HostNode

variable {α : Type} [Scalar α]

mutual

def toSource : HostNode α → Source α
  | node p children => .node p.toDraft (toSources children)

def toSources : List (HostNode α) → List (Source α)
  | [] => []
  | n :: rest => toSource n :: toSources rest

end

theorem toSources_append (ns ms : List (HostNode α)) :
    toSources (ns ++ ms) = toSources ns ++ toSources ms := by
  induction ns with
  | nil => rfl
  | cons n ns ih => rw [List.cons_append, toSources, toSources, ih, List.cons_append]

end HostNode

end Artboard
