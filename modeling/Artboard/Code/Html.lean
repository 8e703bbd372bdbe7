import Artboard.Code.Markup

/-!
# HTML with inline styles

Flow containers become flexible boxes; the children of every other container and of groups are
placed at absolute offsets.
-/

namespace Artboard

structure Declaration where
  property : String
  value : String

namespace Declaration

def text (d : Declaration) : String := d.property ++ ": " ++ d.value

end Declaration

namespace Html

def px (x : Float) : String := Figure.length x ++ "px"

section Layout
variable (site : Site Float)

def turn : List Declaration :=
  let g := site.element.props.geometry
  if g.isRotated then
    [⟨"transform", "rotate(" ++ Figure.length (-g.rotation) ++ "deg)"⟩,
      ⟨"transform-origin", "top left"⟩]
  else []

/-- An absolute branch is placed in its parent; one that hosts such branches is what they are
placed in. -/
def position : List Declaration :=
  let g := site.element.props.geometry
  (if site.isAbsolute then
    [⟨"position", "absolute"⟩, ⟨"left", px g.x⟩, ⟨"top", px g.y⟩]
  else if site.hostsAbsolute then [⟨"position", "relative"⟩]
  else []) ++ turn site

def sizing (axis : Axis) : List Declaration :=
  match site.sizing axis with
  | .fixed l => [⟨axis.extentName, px l⟩]
  | .hug => [⟨axis.extentName, "fit-content"⟩]
  | .fill => if site.isMainAxis axis then [⟨"flex", "1 1 0"⟩] else [⟨"align-self", "stretch"⟩]

end Layout

def justify : Distribution → String
  | .start => "flex-start"
  | .center => "center"
  | .stop => "flex-end"
  | .spaceBetween => "space-between"

def align : Alignment → String
  | .start => "flex-start"
  | .center => "center"
  | .stop => "flex-end"
  | .baseline => "baseline"

def direction : Axis → String
  | .horizontal => "row"
  | .vertical => "column"

def flow (l : ContainerLayout Float) : List Declaration :=
  match l.flow.mainAxis with
  | none => []
  | some main =>
    [⟨"display", "flex"⟩, ⟨"flex-direction", direction main⟩] ++
      (if 0 < l.itemSpacing then [⟨"gap", px l.itemSpacing⟩] else []) ++
      [⟨"justify-content", justify l.distribution⟩, ⟨"align-items", align l.alignment⟩]

def padding (p : Padding Float) : List Declaration :=
  if p.isZero then []
  else [⟨"padding", px p.top ++ " " ++ px p.right ++ " " ++ px p.bottom ++ " " ++ px p.left⟩]

def layout (l : ContainerLayout Float) : List Declaration :=
  flow l ++ padding l.padding ++ if l.clips then [⟨"overflow", "hidden"⟩] else []

def pictureColor : String := "#D9D9D9"

def stops (g : Gradient) : String :=
  ", ".intercalate ((g.stops.zip g.colors).map fun p =>
    Figure.cssColor p.2 ++ " " ++ Figure.length (p.1.position * 100) ++ "%")

def background : Paint → Declaration
  | .solid c o => ⟨"background-color", Figure.cssColor (c.withOpacity o)⟩
  | .linear g => ⟨"background", "linear-gradient(" ++
      Figure.length (Compass.clockDegrees g.transform.gradientAngle) ++ "deg, " ++ stops g ++ ")"⟩
  | .radial g => ⟨"background", "radial-gradient(" ++ stops g ++ ")"⟩
  | .angular g => ⟨"background", "conic-gradient(" ++ stops g ++ ")"⟩
  | .image _ => ⟨"background-color", pictureColor⟩

section Appearance
variable (e : Element Float)

def backgrounds : List Declaration :=
  -- the paint on top is the last
  if e.isText then [] else (e.props.fills.getLast?.map background).toList

def border : List Declaration :=
  match e.stroke? with
  | none => []
  | some (c, w) =>
    let value := px w ++ " solid " ++ Figure.cssColor c
    match e.kind, e.props.strokeAlign with
    | .line, _ => [⟨"border-top", value⟩]
    | _, .outside => [⟨"outline", value⟩]
    | _, _ => [⟨"border", value⟩, ⟨"box-sizing", "border-box"⟩]

def radius : List Declaration :=
  match e.kind with
  | .ellipse => [⟨"border-radius", "50%"⟩]
  | _ =>
    if e.props.cornerRadii.isZero then []
    else
      match e.props.cornerRadii with
      | .uniform r => [⟨"border-radius", px r⟩]
      | .perCorner tl tr br bl =>
        [⟨"border-radius", px tl ++ " " ++ px tr ++ " " ++ px br ++ " " ++ px bl⟩]

def blending : List Declaration :=
  (if e.props.opacity < 1 then [⟨"opacity", Figure.length e.props.opacity⟩] else []) ++
    (e.props.blendMode.keyword?.map fun k => ⟨"mix-blend-mode", k⟩).toList

def shadow (inner : Bool) (s : Shadow) : String :=
  (if inner then "inset " else "") ++ px s.offset.x ++ " " ++ px s.offset.y ++ " " ++ px s.radius ++
    " " ++ px s.spread ++ " " ++ Figure.cssColor s.color

def shadows : List String :=
  e.props.effects.filterMap fun
    | .dropShadow s => some (shadow false s)
    | .innerShadow s => some (shadow true s)
    | _ => none

def blurs : List Declaration :=
  e.props.effects.filterMap fun
    | .layerBlur b => some ⟨"filter", "blur(" ++ px b.radius ++ ")"⟩
    | .backgroundBlur b => some ⟨"backdrop-filter", "blur(" ++ px b.radius ++ ")"⟩
    | _ => none

def effects : List Declaration :=
  blurs e ++
    if (shadows e).isEmpty then []
    else [⟨if e.isText then "text-shadow" else "box-shadow", ", ".intercalate (shadows e)⟩]

def appearance : List Declaration :=
  backgrounds e ++ border e ++ radius e ++ blending e ++ effects e

end Appearance

def declarations (site : Site Float) : List Declaration :=
  position site ++ sizing site .horizontal ++ sizing site .vertical ++
    (site.element.kind.layout?.map layout).getD [] ++ appearance site.element

def textAlign : TextAlign → List Declaration
  | .left => []
  | .center => [⟨"text-align", "center"⟩]
  | .right => [⟨"text-align", "right"⟩]
  | .justified => [⟨"text-align", "justify"⟩]

def textDeclarations (c : TextContent) : List Declaration :=
  ⟨"margin", "0"⟩ :: textAlign c.alignHorizontal

def decoration : TextDecoration → List Declaration
  | .none => []
  | .underline => [⟨"text-decoration", "underline"⟩]
  | .strikethrough => [⟨"text-decoration", "line-through"⟩]

def textCase : TextCase → List Declaration
  | .asTyped => []
  | .upper => [⟨"text-transform", "uppercase"⟩]
  | .lower => [⟨"text-transform", "lowercase"⟩]
  | .title => [⟨"text-transform", "capitalize"⟩]
  | .smallCaps | .smallCapsForced => [⟨"font-variant", "small-caps"⟩]

def runDeclarations (r : TextRun) : List Declaration :=
  let spacing := r.letterSpacing.inPixels r.size
  [⟨"font-family", "'" ++ r.font.family ++ "'"⟩, ⟨"font-size", px r.size⟩] ++
    (if r.weight = 400 then [] else [⟨"font-weight", toString (Figure.weight r.weight)⟩]) ++
    (if r.font.isItalic then [⟨"font-style", "italic"⟩] else []) ++
    ((r.lineHeight.pixels? r.size).map fun h => ⟨"line-height", px h⟩).toList ++
    (if spacing == 0 then [] else [⟨"letter-spacing", px spacing⟩]) ++
    decoration r.decoration ++ textCase r.case ++
    ((Paint.solidFill? r.fills).map fun c => ⟨"color", Figure.cssColor c⟩).toList

/-! ## Writing -/

def styleText (css : List Declaration) : String := "; ".intercalate (css.map Declaration.text)

def span (r : TextRun) : String :=
  "<span style=\"" ++ styleText (runDeclarations r) ++ "\">" ++ Escape.markup r.characters ++
    "</span>"

def paragraph (t : TextContent) : List TextRun → List Declaration × String
  | [r] => (textDeclarations t ++ runDeclarations r, Escape.markup r.characters)
  | [] => (textDeclarations t, Escape.markup t.characters)
  | runs => (textDeclarations t, String.join (runs.map span))

def attributes (name : String) (css : List Declaration) : String :=
  " data-name=\"" ++ Escape.markup name ++ "\" style=\"" ++ styleText css ++ "\""

mutual

/-- The lines of a branch are added to those that are there. -/
def write (c : Context) (indent : Nat) (lines : Array String) : Branch Float → Array String
  | .node site children =>
    let name := site.element.props.name
    let css := declarations site
    let spaces := Markup.spaces indent
    match site.element.kind with
    | .text content =>
      let (own, inner) := paragraph content (site.element.textRuns c)
      lines.push (spaces ++ "<p" ++ attributes name (css ++ own) ++ ">" ++ inner ++ "</p>")
    | .container _ | .group =>
      let opened := lines.push (spaces ++ "<div" ++ attributes name css ++ ">")
      (writeAll c (indent + 2) opened children).push (spaces ++ "</div>")
    | _ => lines.push (spaces ++ "<div" ++ attributes name css ++ "></div>")

def writeAll (c : Context) (indent : Nat) (lines : Array String) :
    List (Branch Float) → Array String
  | [] => lines
  | b :: rest => writeAll c indent (write c indent lines b) rest

end

def body (c : Context) (branches : List (Branch Float)) : String :=
  "\n".intercalate (writeAll c 0 #[] branches).toList

def styling : Markup.Styling where
  attributeName := "style"
  separator := "; "
  node site := (declarations site).map Declaration.text
  text c := (textDeclarations c).map Declaration.text
  run r := (runDeclarations r).map Declaration.text

end Html

end Artboard
