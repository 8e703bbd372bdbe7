import Artboard.Code.Escape
import Artboard.Code.Expr
import Artboard.Code.Markup
import Artboard.Text.Words

/-!
# SwiftUI

Containers and groups become stacks with their children between braces, everything else a view on
one line. Modifiers follow a view, each on a line of its own.
-/

namespace Artboard

structure Modifier where
  name : String
  arguments : List Argument

inductive View
  | leaf (expression : Expr) (modifiers : List Modifier)
  | stack (header : Expr) (content : List View) (modifiers : List Modifier)

namespace SwiftUi

def literals : Literals where
  delimiter := '"'
  escape := Escape.doubleQuotedChar

def inline (name : String) (arguments : List Argument) : Expr := .call false name arguments

def color (c : Color) : Expr :=
  inline "Color"
    ([("red", .fraction (BinaryFloat.convert c.r)), ("green", .fraction (BinaryFloat.convert c.g)),
        ("blue", .fraction (BinaryFloat.convert c.b))] ++
      if 1 ≤ c.a then [] else [("opacity", .fraction c.alpha)])

def stops (g : Gradient) : Expr :=
  .list false ((g.stops.zip g.colors).map fun p =>
    inline ".init" [("color", color p.2), ("location", .fraction p.1.position)])

def pictureColor : Expr := inline "Color" [("", .atom ".systemGray5")]

section Appearance
variable (e : Element Float)

def paint : Paint → Expr
  | .solid c o => color (c.withOpacity o)
  | .linear g =>
    let points := g.compass.unitPoints
    inline "LinearGradient"
      [("stops", stops g), ("startPoint", .atom points.1), ("endPoint", .atom points.2)]
  | .radial g =>
    let size := e.props.geometry
    inline "RadialGradient"
      [("stops", stops g), ("center", .atom ".center"), ("startRadius", .atom "0"),
        ("endRadius", .length (Scalar.greatest size.width size.height / 2))]
  | .angular g => inline "AngularGradient" [("stops", stops g), ("center", .atom ".center")]
  | .image _ => pictureColor

def fill? : Option Expr := e.props.fills.getLast?.map (paint e)

def outline : Expr :=
  match e.kind with
  | .ellipse => inline "Ellipse" []
  | _ =>
    if e.props.cornerRadii.isZero then inline "Rectangle" []
    else
      match e.props.cornerRadii with
      | .uniform r => inline "RoundedRectangle" [("cornerRadius", .length r)]
      | .perCorner tl tr br bl =>
        inline "UnevenRoundedRectangle"
          [("topLeadingRadius", .length tl), ("bottomLeadingRadius", .length bl),
            ("bottomTrailingRadius", .length br), ("topTrailingRadius", .length tr)]

end Appearance

def rowAlignment : Alignment → String
  | .start => ".top"
  | .center => ".center"
  | .stop => ".bottom"
  | .baseline => ".firstTextBaseline"

def columnAlignment : Alignment → String
  | .start | .baseline => ".leading"
  | .center => ".center"
  | .stop => ".trailing"

def layers : Expr := inline "ZStack" [("alignment", .atom ".topLeading")]

def stackSpacing (l : ContainerLayout Float) : Float :=
  if l.distribution = .spaceBetween then 0 else l.itemSpacing

def header (layout : Option (ContainerLayout Float)) : Expr :=
  match layout with
  | none => layers
  | some l =>
    match l.flow with
    | .row => inline "HStack"
        [("alignment", .atom (rowAlignment l.alignment)), ("spacing", .length (stackSpacing l))]
    | .column => inline "VStack"
        [("alignment", .atom (columnAlignment l.alignment)), ("spacing", .length (stackSpacing l))]
    | .free => layers

def spacer (length : Float) : View := .leaf (inline "Spacer" [("minLength", .length length)]) []

/-- Spacers push children off the start of a flow. -/
def spread (layout : Option (ContainerLayout Float)) (children : List View) : List View :=
  match layout with
  | none => children
  | some l =>
    if l.flow.isFlow then
      match l.distribution with
      | .start => children
      | .center => spacer 0 :: children ++ [spacer 0]
      | .stop => spacer 0 :: children
      | .spaceBetween => children.intersperse (spacer l.itemSpacing)
    else children

/-! ## Text -/

def weight (w : Nat) : String :=
  match Figure.weight w with
  | 100 => ".ultraLight"
  | 200 => ".thin"
  | 300 => ".light"
  | 500 => ".medium"
  | 600 => ".semibold"
  | 700 => ".bold"
  | 800 => ".heavy"
  | 900 => ".black"
  | _ => ".regular"

def decoration : TextDecoration → List Modifier
  | .none => []
  | .underline => [⟨"underline", []⟩]
  | .strikethrough => [⟨"strikethrough", []⟩]

def runModifiers (r : TextRun) : List Modifier :=
  let spacing := r.letterSpacing.inPixels r.size
  [⟨"font", [("", inline ".custom" [("", .literal r.font.family), ("size", .length r.size)])]⟩] ++
    (if r.weight = 400 then [] else [⟨"fontWeight", [("", .atom (weight r.weight))]⟩]) ++
    (if r.font.isItalic then [⟨"italic", []⟩] else []) ++ decoration r.decoration ++
    (if spacing == 0 then [] else [⟨"kerning", [("", .length spacing)]⟩]) ++
    ((Paint.solidFill? r.fills).map fun c => ⟨"foregroundColor", [("", color c)]⟩).toList

def plainText (s : String) : Expr := inline "Text" [("", .literal s)]

/-- A text whose modifiers give texts again, so that runs can be added up. -/
def run (r : TextRun) : Expr :=
  (runModifiers r).foldl (fun e m => .method e m.name m.arguments)
    (plainText (r.case.apply r.characters))

def textExpr (runs : List TextRun) (content : TextContent) : Expr :=
  match runs with
  | [] => plainText content.characters
  | [r] => run r
  | rs => .sum (rs.map run)

def textAlignment : TextAlign → String
  | .left | .justified => ".leading"
  | .center => ".center"
  | .right => ".trailing"

def lineSpacing (runs : List TextRun) : List Modifier :=
  match runs with
  | [] => []
  | r :: _ =>
    match r.lineHeight.pixels? r.size with
    | some h => if r.size < h then [⟨"lineSpacing", [("", .length (h - r.size))]⟩] else []
    | none => []

def textModifiers (runs : List TextRun) (content : TextContent) : List Modifier :=
  (match content.alignHorizontal with
    | .left | .justified => []
    | a => [⟨"multilineTextAlignment", [("", .atom (textAlignment a))]⟩]) ++ lineSpacing runs

/-! ## Modifiers -/

section Modifiers
variable (site : Site Float)

def drawing (c : Context) (e : Element Float) : List Modifier :=
  let filled (x : Option Expr) : List Modifier := (x.map fun p => ⟨"fill", [("", p)]⟩).toList
  match e.kind with
  | .text content => textModifiers (e.textRuns c) content
  | .boolean => [⟨"resizable", []⟩]
  | .line => filled ((Paint.solidFill? e.props.strokes).map color)
  | .container _ | .group => []
  | _ => filled (fill? e)

def padding (p : Padding Float) : List Modifier :=
  if p.isZero then []
  else if p.isUniform then [⟨"padding", [("", .length p.top)]⟩]
  else
    [⟨"padding", [("", inline "EdgeInsets"
      [("top", .length p.top), ("leading", .length p.left), ("bottom", .length p.bottom),
        ("trailing", .length p.right)])]⟩]

def greatestExtentName : Axis → String
  | .horizontal => "maxWidth"
  | .vertical => "maxHeight"

def fixedExtent (axis : Axis) : List Argument :=
  match site.sizing axis with
  | .fixed l => [(axis.extentName, .length (site.element.drawnLength axis l))]
  | .hug | .fill => []

def filledExtent (axis : Axis) : List Argument :=
  match site.sizing axis with
  | .fill => [(greatestExtentName axis, .atom ".infinity")]
  | .hug | .fixed _ => []

def frame (e : Element Float) (extents : List Argument) : List Modifier :=
  if extents.isEmpty then []
  else
    [⟨"frame", extents ++
      (e.kind.content?.map fun c =>
        ("alignment", Expr.atom (textAlignment c.alignHorizontal))).toList⟩]

def frames : List Modifier :=
  frame site.element (fixedExtent site .horizontal ++ fixedExtent site .vertical) ++
    frame site.element (filledExtent site .horizontal ++ filledExtent site .vertical)

def clipping (e : Element Float) : List Modifier :=
  if e.props.cornerRadii.isZero then
    if (e.kind.layout?.map (·.clips)).getD false then [⟨"clipped", []⟩] else []
  else [⟨"clipShape", [("", outline e)]⟩]

def backdrop (e : Element Float) : List Modifier :=
  match e.kind with
  | .container _ | .group =>
    ((fill? e).map fun p => ⟨"background", [("", p)]⟩).toList ++ clipping e
  | _ => []

def stroke (e : Element Float) : List Modifier :=
  match e.kind with
  | .line | .text _ | .boolean => []
  | _ =>
    (e.stroke?.map fun s => ⟨"overlay", [("", .method (outline e) "stroke"
      [("", color s.1), ("lineWidth", .length s.2)])]⟩).toList

def effect : Effect → List Modifier
  | .dropShadow s =>
    [⟨"shadow", [("color", color s.color), ("radius", .length (s.radius / 2)),
      ("x", .length s.offset.x), ("y", .length s.offset.y)]⟩]
  -- there is no such modifier
  | .innerShadow _ => []
  | .layerBlur b => [⟨"blur", [("radius", .length (b.radius / 2))]⟩]
  | .backgroundBlur _ => [⟨"background", [("", .atom ".ultraThinMaterial")]⟩]

def blending (e : Element Float) : List Modifier :=
  (if e.props.opacity < 1 then [⟨"opacity", [("", .length e.props.opacity)]⟩] else []) ++
    (e.props.blendMode.keyword?.map fun k =>
      ⟨"blendMode", [("", .atom ("." ++ NameStyle.camel.apply k))]⟩).toList

def placement : List Modifier :=
  let g := site.element.props.geometry
  (if g.isRotated then
    [⟨"rotationEffect", [("", inline ".degrees" [("", .length (-g.rotation))]),
      ("anchor", .atom ".topLeading")]⟩]
  else []) ++
    if site.isAbsolute && (g.x != 0 || g.y != 0) then
      [⟨"offset", [("x", .length g.x), ("y", .length g.y)]⟩]
    else []

def modifiers (c : Context) : List Modifier :=
  let e := site.element
  drawing c e ++ (e.kind.layout?.map fun l => padding l.padding).getD [] ++ frames site ++
    backdrop e ++ stroke e ++ e.props.effects.flatMap effect ++ blending e ++ placement site

end Modifiers

/-! ## Views -/

mutual

def view (c : Context) : Branch Float → View
  | .node site children =>
    let e := site.element
    let ms := modifiers site c
    match e.kind with
    | .container l => .stack (header (some l)) (spread (some l) (views c children)) ms
    | .group => .stack (header none) (views c children) ms
    | .text content => .leaf (textExpr (e.textRuns c) content) ms
    | .boolean => .leaf (inline "Image" [("systemName", .literal "photo")]) ms
    | _ => .leaf (outline e) ms

def views (c : Context) : List (Branch Float) → List View
  | [] => []
  | b :: rest => view c b :: views c rest

end

def modifierText (m : Modifier) : String :=
  "." ++ m.name ++ "(" ++ Expr.arrange false (Expr.argumentTexts literals m.arguments) ++ ")"

def modifierLines (depth : Nat) (ms : List Modifier) : List String :=
  ms.map fun m => Markup.spaces depth ++ modifierText m

mutual

/-- The lines of a view at some depth. Modifiers stand below a closing brace, and one level deeper
than a view on one line. -/
def lines (depth : Nat) : View → List String
  | .leaf e ms => (Markup.spaces depth ++ e.text literals) :: modifierLines (depth + 4) ms
  | .stack h content ms =>
    (Markup.spaces depth ++ h.text literals ++ " \x7b") :: linesOfAll (depth + 4) content ++
      (Markup.spaces depth ++ "\x7d") :: modifierLines depth ms

def linesOfAll (depth : Nat) : List View → List String
  | [] => []
  | v :: rest => lines depth v ++ linesOfAll depth rest

end

def single : List View → View
  | [v] => v
  | vs => .stack (inline "VStack" [("alignment", .atom ".leading"), ("spacing", .atom "0")]) vs []

def body (c : Context) (branches : List (Branch Float)) : String :=
  "\n".intercalate (lines 0 (single (views c branches)))

end SwiftUi

end Artboard
