import Artboard.Code.Html

/-!
# HTML with utility classes

The same document, styled by classes. Values that have no class of their own stand in brackets, in
which blanks are written as underscores.
-/

namespace Artboard

namespace Tailwind

def tightenCommas : List Char → List Char
  | ',' :: ' ' :: rest => ',' :: tightenCommas rest
  | c :: rest => c :: tightenCommas rest
  | [] => []

def arbitrary (s : String) : String :=
  String.ofList ((tightenCommas s.toList).map fun c => if c = ' ' then '_' else c)

def bracket (name value : String) : String := name ++ "-[" ++ value ++ "]"

def bracketPx (name : String) (x : Float) : String := bracket name (Html.px x)

def color (c : Color) : String := arbitrary (Figure.cssColor c)

section Layout
variable (site : Site Float)

def turn : List String :=
  let g := site.element.props.geometry
  if g.isRotated then
    ["origin-top-left", bracket "rotate" (Figure.length (-g.rotation) ++ "deg")]
  else []

def position : List String :=
  let g := site.element.props.geometry
  (if site.isAbsolute then ["absolute", bracketPx "left" g.x, bracketPx "top" g.y]
  else if site.hostsAbsolute then ["relative"]
  else []) ++ turn site

def extentName : Axis → String
  | .horizontal => "w"
  | .vertical => "h"

def sizing (axis : Axis) : List String :=
  match site.sizing axis with
  | .fixed l => [bracketPx (extentName axis) l]
  | .hug => [extentName axis ++ "-fit"]
  | .fill => if site.isMainAxis axis then ["flex-1"] else ["self-stretch"]

end Layout

def justify : Distribution → String
  | .start => "justify-start"
  | .center => "justify-center"
  | .stop => "justify-end"
  | .spaceBetween => "justify-between"

def items : Alignment → String
  | .start => "items-start"
  | .center => "items-center"
  | .stop => "items-end"
  | .baseline => "items-baseline"

def direction : Axis → String
  | .horizontal => "flex-row"
  | .vertical => "flex-col"

def flow (l : ContainerLayout Float) : List String :=
  match l.flow.mainAxis with
  | none => []
  | some main =>
    ["flex", direction main] ++
      (if 0 < l.itemSpacing then [bracketPx "gap" l.itemSpacing] else []) ++
      [justify l.distribution, items l.alignment]

def sides (l : List (String × Float)) : List String :=
  (l.filter fun p => 0 < p.2).map fun p => bracketPx p.1 p.2

def padding (p : Padding Float) : List String :=
  if p.isZero then []
  else if p.isUniform then [bracketPx "p" p.top]
  else sides [("pt", p.top), ("pr", p.right), ("pb", p.bottom), ("pl", p.left)]

def layout (l : ContainerLayout Float) : List String :=
  flow l ++ padding l.padding ++ if l.clips then ["overflow-hidden"] else []

def gradient (g : Gradient) : List String :=
  match g.colors.head?, g.colors.getLast? with
  | some first, some last =>
    ["bg-gradient-to-" ++ g.compass.suffix, bracket "from" (color first)] ++
      -- there is one class for what lies in between
      (if 2 < g.colors.length then
        (g.colors[g.colors.length / 2]?.map fun c => bracket "via" (color c)).toList
      else []) ++ [bracket "to" (color last)]
  | _, _ => []

def wideGradient (name : String) (g : Gradient) : String :=
  bracket "bg" (arbitrary (name ++ "(" ++ Html.stops g ++ ")"))

def background : Paint → List String
  | .solid c o => [bracket "bg" (color (c.withOpacity o))]
  | .linear _ => []
  | .radial g => [wideGradient "radial-gradient" g]
  | .angular g => [wideGradient "conic-gradient" g]
  | .image _ => [bracket "bg" Html.pictureColor]

section Appearance
variable (e : Element Float)

/-- A linear gradient goes before the paint on top. -/
def backgrounds : List String :=
  if e.isText then []
  else
    match e.props.fills.findSome? Paint.linear? with
    | some g => gradient g
    | none => (e.props.fills.getLast?.map background).getD []

def border : List String :=
  match e.stroke? with
  | none => []
  | some (c, w) =>
    match e.kind, e.props.strokeAlign with
    | .line, _ => [bracketPx "border-t" w, bracket "border" (color c)]
    | _, .outside => [bracketPx "outline" w, bracket "outline" (color c)]
    | _, _ => [bracketPx "border" w, bracket "border" (color c)]

def radius : List String :=
  match e.kind with
  | .ellipse => ["rounded-full"]
  | _ =>
    if e.props.cornerRadii.isZero then []
    else
      match e.props.cornerRadii with
      | .uniform r => [bracketPx "rounded" r]
      | .perCorner tl tr br bl =>
        sides [("rounded-tl", tl), ("rounded-tr", tr), ("rounded-br", br), ("rounded-bl", bl)]

def blending : List String :=
  (if e.props.opacity < 1 then [bracket "opacity" (Figure.length e.props.opacity)] else []) ++
    (e.props.blendMode.keyword?.map fun k => "mix-blend-" ++ k).toList

def blurs : List String :=
  e.props.effects.filterMap fun
    | .layerBlur b => some (bracketPx "blur" b.radius)
    | .backgroundBlur b => some (bracketPx "backdrop-blur" b.radius)
    | _ => none

def effects : List String :=
  blurs e ++
    if (Html.shadows e).isEmpty then []
    else [bracket "shadow" (arbitrary (",".intercalate (Html.shadows e)))]

def appearance : List String :=
  backgrounds e ++ border e ++ radius e ++ blending e ++ effects e

end Appearance

def classes (site : Site Float) : List String :=
  position site ++ sizing site .horizontal ++ sizing site .vertical ++
    (site.element.kind.layout?.map layout).getD [] ++ appearance site.element

def textAlign : TextAlign → List String
  | .left => []
  | .center => ["text-center"]
  | .right => ["text-right"]
  | .justified => ["text-justify"]

def weight (w : Nat) : String :=
  match Figure.weight w with
  | 100 => "font-thin"
  | 200 => "font-extralight"
  | 300 => "font-light"
  | 500 => "font-medium"
  | 600 => "font-semibold"
  | 700 => "font-bold"
  | 800 => "font-extrabold"
  | 900 => "font-black"
  | _ => "font-normal"

def decoration : TextDecoration → List String
  | .none => []
  | .underline => ["underline"]
  | .strikethrough => ["line-through"]

def textCase : TextCase → List String
  | .asTyped => []
  | .upper => ["uppercase"]
  | .lower => ["lowercase"]
  | .title => ["capitalize"]
  | .smallCaps | .smallCapsForced => ["[font-variant:small-caps]"]

def runClasses (r : TextRun) : List String :=
  let spacing := r.letterSpacing.inPixels r.size
  [bracket "font" ("'" ++ arbitrary r.font.family ++ "'"), bracketPx "text" r.size] ++
    (if r.weight = 400 then [] else [weight r.weight]) ++
    (if r.font.isItalic then ["italic"] else []) ++
    ((r.lineHeight.pixels? r.size).map fun h => bracketPx "leading" h).toList ++
    (if spacing == 0 then [] else [bracketPx "tracking" spacing]) ++
    decoration r.decoration ++ textCase r.case ++
    ((Paint.solidFill? r.fills).map fun c => bracket "text" (color c)).toList

/-! ## Writing -/

def span (r : TextRun) : String :=
  "<span class=\"" ++ " ".intercalate (runClasses r) ++ "\">" ++ Escape.markup r.characters ++
    "</span>"

def paragraph (t : TextContent) : List TextRun → List String × String
  | [r] => (textAlign t.alignHorizontal ++ runClasses r, Escape.markup r.characters)
  | [] => (textAlign t.alignHorizontal, Escape.markup t.characters)
  | runs => (textAlign t.alignHorizontal, String.join (runs.map span))

mutual

def write (c : Context) (indent : Nat) (lines : Array String) : Branch Float → Array String
  | .node site children =>
    let name := Escape.markup site.element.props.name
    let spaces := Markup.spaces indent
    let own := classes site
    match site.element.kind with
    | .text content =>
      let (more, inner) := paragraph content (site.element.textRuns c)
      lines.push (spaces ++ "<p data-name=\"" ++ name ++ "\" class=\"" ++
        " ".intercalate (own ++ more) ++ "\">" ++ inner ++ "</p>")
    | .container _ | .group =>
      let opened := lines.push (spaces ++ "<div data-name=\"" ++ name ++ "\" class=\"" ++
        " ".intercalate own ++ "\">")
      (writeAll c (indent + 2) opened children).push (spaces ++ "</div>")
    | _ => lines.push (spaces ++ "<div data-name=\"" ++ name ++ "\" class=\"" ++
        " ".intercalate own ++ "\"></div>")

def writeAll (c : Context) (indent : Nat) (lines : Array String) :
    List (Branch Float) → Array String
  | [] => lines
  | b :: rest => writeAll c indent (write c indent lines b) rest

end

def body (c : Context) (branches : List (Branch Float)) : String :=
  "\n".intercalate (writeAll c 0 #[] branches).toList

def styling : Markup.Styling where
  attributeName := "class"
  separator := " "
  node := classes
  text c := textAlign c.alignHorizontal
  run := runClasses

end Tailwind

end Artboard
