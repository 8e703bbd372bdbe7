import Artboard.Code.Escape
import Artboard.Code.Expr
import Artboard.Code.Markup

/-!
# Flutter

Every element becomes a widget. What a parent's list of children has to see, the place in a stack
or the share in a row, is wrapped around everything else.
-/

namespace Artboard

namespace Flutter

def literals : Literals where
  delimiter := '\''
  escape := Escape.singleQuotedChar

def inline (name : String) (arguments : List Argument) : Expr := .call false name arguments

def tall (name : String) (arguments : List Argument) : Expr := .call true name arguments

def color (c : Color) : Expr :=
  inline "Color" [("", .atom ("0x" ++ String.ofList
    ([c.a, c.r, c.g, c.b].flatMap fun x => Color.hexDigits (Color.byte x))))]

def pictureColor : Expr := inline "Color" [("", .atom "0xFFD9D9D9")]

def blur (radius : Float) : Expr :=
  inline "ImageFilter.blur" [("sigmaX", .length (radius / 2)), ("sigmaY", .length (radius / 2))]

def edgeInsets (p : Padding Float) : List Argument :=
  if p.isZero then []
  else if p.isUniform then [("padding", inline "const EdgeInsets.all" [("", .length p.top)])]
  else
    [("padding", inline "const EdgeInsets.fromLTRB"
      [("", .length p.left), ("", .length p.top), ("", .length p.right), ("", .length p.bottom)])]

/-! ## Decoration -/

def gradient (name : String) (ends : List Argument) (g : Gradient) : List Argument :=
  [("gradient", tall name (ends ++
    [("colors", .list false (g.colors.map color)),
      ("stops", .list false (g.stops.map fun s => .length s.position))]))]

def paint : Paint → List Argument
  | .solid c o => [("color", color (c.withOpacity o))]
  | .linear g =>
    let ends := g.compass.alignments
    gradient "LinearGradient" [("begin", .atom ends.1), ("end", .atom ends.2)] g
  | .radial g => gradient "RadialGradient" [] g
  | .angular g => gradient "SweepGradient" [] g
  | .image _ => [("color", pictureColor)]

section Decoration
variable (e : Element Float)

def background : List Argument :=
  match e.kind with
  | .line => ((Paint.solidFill? e.props.strokes).map fun c => ("color", color c)).toList
  | _ => (e.props.fills.getLast?.map paint).getD []

def strokeAlign : StrokeAlign → List Argument
  | .inside => []
  | .center => [("strokeAlign", .atom "BorderSide.strokeAlignCenter")]
  | .outside => [("strokeAlign", .atom "BorderSide.strokeAlignOutside")]

def border : List Argument :=
  match e.kind with
  | .line => []
  | _ =>
    (e.stroke?.map fun s => ("border", inline "Border.all"
      ([("color", color s.1), ("width", .length s.2)] ++ strokeAlign e.props.strokeAlign))).toList

def circular (r : Float) : Expr := inline "Radius.circular" [("", .length r)]

def radius : List Argument :=
  match e.kind with
  | .ellipse =>
    [("borderRadius", inline "BorderRadius.all" [("", inline "Radius.elliptical"
      [("", .length (e.props.geometry.width / 2)), ("", .length (e.props.geometry.height / 2))])])]
  | _ =>
    if e.props.cornerRadii.isZero then []
    else
      match e.props.cornerRadii with
      | .uniform r => [("borderRadius", inline "BorderRadius.circular" [("", .length r)])]
      | .perCorner tl tr br bl =>
        [("borderRadius", inline "const BorderRadius.only"
          [("topLeft", circular tl), ("topRight", circular tr), ("bottomRight", circular br),
            ("bottomLeft", circular bl)])]

def shadow (s : Shadow) : Expr :=
  inline "BoxShadow"
    [("color", color s.color),
      ("offset", inline "Offset" [("", .length s.offset.x), ("", .length s.offset.y)]),
      ("blurRadius", .length s.radius), ("spreadRadius", .length s.spread)]

def shadows : List Argument :=
  let all := e.props.effects.filterMap fun
    | .dropShadow s => some (shadow s)
    | _ => none
  if all.isEmpty then [] else [("boxShadow", .list true all)]

def decoration : List Argument :=
  match e.kind with
  | .text _ | .boolean => []
  | _ =>
    let parts := background e ++ border e ++ radius e ++ shadows e
    if parts.isEmpty then [] else [("decoration", tall "BoxDecoration" parts)]

end Decoration

/-! ## Text -/

def textDecoration : TextDecoration → List Argument
  | .none => []
  | .underline => [("decoration", .atom "TextDecoration.underline")]
  | .strikethrough => [("decoration", .atom "TextDecoration.lineThrough")]

def lineHeight (r : TextRun) : List Argument :=
  match r.lineHeight.pixels? r.size with
  | some h => if 0 < r.size then [("height", .length (h / r.size))] else []
  | none => []

def style (r : TextRun) : Argument :=
  let spacing := r.letterSpacing.inPixels r.size
  ("style", inline "TextStyle"
    ([("fontFamily", .literal r.font.family), ("fontSize", .length r.size)] ++
      (if r.weight = 400 then []
      else [("fontWeight", .atom ("FontWeight.w" ++ toString (Figure.weight r.weight)))]) ++
      (if r.font.isItalic then [("fontStyle", .atom "FontStyle.italic")] else []) ++
      lineHeight r ++
      (if spacing == 0 then [] else [("letterSpacing", .length spacing)]) ++
      textDecoration r.decoration ++
      ((Paint.solidFill? r.fills).map fun c => ("color", color c)).toList))

def runLiteral (r : TextRun) : Expr := .literal (r.case.apply r.characters)

def textAlign : TextAlign → List Argument
  | .left => []
  | .center => [("textAlign", .atom "TextAlign.center")]
  | .right => [("textAlign", .atom "TextAlign.right")]
  | .justified => [("textAlign", .atom "TextAlign.justify")]

def span (r : TextRun) : Expr := inline "TextSpan" [("text", runLiteral r), style r]

def text (runs : List TextRun) (content : TextContent) : Expr :=
  let align := textAlign content.alignHorizontal
  match runs with
  | [] => tall "Text" (("", .literal content.characters) :: align)
  | [r] => tall "Text" (("", runLiteral r) :: style r :: align)
  | rs => tall "Text.rich"
      (("", tall "TextSpan" [("children", .list true (rs.map span))]) :: align)

/-! ## Layout -/

section Layout
variable (site : Site Float)

def mainAxisAlignment : Distribution → List Argument
  | .start => []
  | .center => [("mainAxisAlignment", .atom "MainAxisAlignment.center")]
  | .stop => [("mainAxisAlignment", .atom "MainAxisAlignment.end")]
  | .spaceBetween => [("mainAxisAlignment", .atom "MainAxisAlignment.spaceBetween")]

def crossAxisAlignment : Axis → Alignment → List Argument
  | _, .start | .vertical, .baseline => [("crossAxisAlignment", .atom "CrossAxisAlignment.start")]
  | _, .center => [("crossAxisAlignment", .atom "CrossAxisAlignment.center")]
  | _, .stop => [("crossAxisAlignment", .atom "CrossAxisAlignment.end")]
  | .horizontal, .baseline =>
    [("crossAxisAlignment", .atom "CrossAxisAlignment.baseline"),
      ("textBaseline", .atom "TextBaseline.alphabetic")]

def leastSize : Argument := ("mainAxisSize", .atom "MainAxisSize.min")

def flowName : Axis → String
  | .horizontal => "Row"
  | .vertical => "Column"

/-- Children with empty boxes between them, unless they are spread out anyway. -/
def spaced (main : Axis) (l : ContainerLayout Float) (children : List Expr) : List Expr :=
  if 0 < l.itemSpacing && l.distribution != .spaceBetween then
    children.intersperse (inline "SizedBox" [(main.extentName, .length l.itemSpacing)])
  else children

def stack (clips : Bool) (children : List Expr) : Expr :=
  tall "Stack"
    ((if clips then [] else [("clipBehavior", .atom "Clip.none")]) ++
      [("children", .list true children)])

def flow (main : Axis) (l : ContainerLayout Float) (sizing : AxisSizing Float)
    (children : List Expr) : Expr :=
  tall (flowName main)
    (mainAxisAlignment l.distribution ++ crossAxisAlignment main l.alignment ++
      (match sizing with
        | .hug => [leastSize]
        | .fixed _ | .fill => []) ++
      [("children", .list true (spaced main l children))])

def arranged (children : List Expr) : Expr :=
  match site.element.kind.layout? with
  | none => stack false children
  | some l =>
    match l.flow.mainAxis with
    | none => stack l.clips children
    | some main => flow main l (site.sizing main) children

/-! ## The box around a child -/

/-- The axis on which a branch takes a share of its parent. -/
def expandedAxis? : Option Axis := do
  let main ← site.parentFlow.bind Flow.mainAxis
  match site.sizing main with
  | .fill => some main
  | .hug | .fixed _ => none

def dimension (axis : Axis) : List Argument :=
  -- a share is claimed by the wrapper
  if expandedAxis? site = some axis then []
  else
    match site.sizing axis with
    | .fixed l => [(axis.extentName, .length (site.element.drawnLength axis l))]
    | .fill => [(axis.extentName, .atom "double.infinity")]
    | .hug => []

def insets (e : Element Float) : List Argument :=
  (e.kind.layout?.map fun l => edgeInsets l.padding).getD []

def clips (e : Element Float) : Bool :=
  match e.kind.layout? with
  | some l => l.clips && l.flow.isFlow
  | none => false

def clipBehavior (e : Element Float) : List Argument :=
  if clips e && !(decoration e).isEmpty then [("clipBehavior", .atom "Clip.antiAlias")] else []

/-- A box that only has a size is enough where there is neither padding nor decoration. -/
def boxName (e : Element Float) : String :=
  if (insets e).isEmpty && (decoration e).isEmpty then "SizedBox" else "Container"

def boxed (child : Option Expr) : Expr :=
  let e := site.element
  let arguments :=
    dimension site .horizontal ++ dimension site .vertical ++ insets e ++ clipBehavior e ++
      decoration e
  match child with
  | none => tall "Container" arguments
  | some w => if arguments.isEmpty then w else tall (boxName e) (arguments ++ [("child", w)])

end Layout

/-! ## Wrappers -/

section Wrappers
variable (site : Site Float)

def wrap (name : String) (arguments : List Argument) (child : Expr) : Expr :=
  tall name (arguments ++ [("child", child)])

def clipped (e : Element Float) (w : Expr) : Expr :=
  if clips e && (decoration e).isEmpty then wrap "ClipRect" [] w else w

def effect (w : Expr) : Effect → Expr
  | .layerBlur b => wrap "ImageFiltered" [("imageFilter", blur b.radius)] w
  | .backgroundBlur b => wrap "ClipRect" [] (wrap "BackdropFilter" [("filter", blur b.radius)] w)
  -- shadows belong to the decoration
  | .dropShadow _ | .innerShadow _ => w

def faded (e : Element Float) (w : Expr) : Expr :=
  if e.props.opacity < 1 then wrap "Opacity" [("opacity", .length e.props.opacity)] w else w

def turned (e : Element Float) (w : Expr) : Expr :=
  let g := e.props.geometry
  if g.isRotated then
    wrap "Transform.rotate"
      [("angle", .atom (Figure.radians (-(g.rotation * (halfTurn / 180))))),
        ("alignment", .atom "Alignment.topLeft")] w
  else w

def flex (e : Element Float) : List Argument :=
  let share := Figure.saturate (BinaryFloat.roundToInteger e.props.layoutGrow)
  if 1 < share then [("flex", .atom (toString share))] else []

/-- What the parent has to see. -/
def placed (w : Expr) : Expr :=
  let g := site.element.props.geometry
  if site.isAbsolute then wrap "Positioned" [("left", .length g.x), ("top", .length g.y)] w
  else if (expandedAxis? site).isSome then wrap "Expanded" (flex site.element) w
  else w

def wrapped (child : Option Expr) : Expr :=
  let e := site.element
  placed site (turned e (faded e (e.props.effects.foldl effect (clipped e (boxed site child)))))

end Wrappers

/-! ## Widgets -/

mutual

def widget (c : Context) : Branch Float → Expr
  | .node site children =>
    let e := site.element
    match e.kind with
    | .container _ | .group => wrapped site (some (arranged site (widgets c children)))
    | .text content => wrapped site (some (text (e.textRuns c) content))
    | .boolean => wrapped site (some (inline "const Placeholder" []))
    | _ => wrapped site none

def widgets (c : Context) : List (Branch Float) → List Expr
  | [] => []
  | b :: rest => widget c b :: widgets c rest

end

def single : List Expr → Expr
  | [w] => w
  | ws => tall "Column"
      [("crossAxisAlignment", .atom "CrossAxisAlignment.start"), leastSize,
        ("children", .list true ws)]

def body (c : Context) (branches : List (Branch Float)) : String :=
  (single (widgets c branches)).text literals

end Flutter

end Artboard
