import Artboard.Host.Node
import Artboard.Json.Record

/-!
# Names and values of the host

How the host spells its plain cases, colors, effects, fonts and paints.
-/

namespace Artboard

instance : Named BlendMode where
  all :=
    [.passThrough, .normal, .darken, .multiply, .colorBurn, .lighten, .screen, .colorDodge,
      .overlay, .softLight, .hardLight, .difference, .exclusion, .hue, .saturation, .color,
      .luminosity]
  name
    | .passThrough => "PASS_THROUGH"
    | .normal => "NORMAL"
    | .darken => "DARKEN"
    | .multiply => "MULTIPLY"
    | .colorBurn => "COLOR_BURN"
    | .lighten => "LIGHTEN"
    | .screen => "SCREEN"
    | .colorDodge => "COLOR_DODGE"
    | .overlay => "OVERLAY"
    | .softLight => "SOFT_LIGHT"
    | .hardLight => "HARD_LIGHT"
    | .difference => "DIFFERENCE"
    | .exclusion => "EXCLUSION"
    | .hue => "HUE"
    | .saturation => "SATURATION"
    | .color => "COLOR"
    | .luminosity => "LUMINOSITY"

instance : Named StrokeAlign where
  all := [.inside, .center, .outside]
  name
    | .inside => "INSIDE"
    | .center => "CENTER"
    | .outside => "OUTSIDE"

instance : Named LayoutAlign where
  all := [.inherit, .stretch, .start, .center, .stop]
  name
    | .inherit => "INHERIT"
    | .stretch => "STRETCH"
    | .start => "MIN"
    | .center => "CENTER"
    | .stop => "MAX"

instance : Named ScaleMode where
  all := [.fill, .fit, .crop, .tile]
  name
    | .fill => "FILL"
    | .fit => "FIT"
    | .crop => "CROP"
    | .tile => "TILE"

instance : Named TextDecoration where
  all := [.none, .underline, .strikethrough]
  name
    | .none => "NONE"
    | .underline => "UNDERLINE"
    | .strikethrough => "STRIKETHROUGH"

instance : Named TextCase where
  all := [.asTyped, .upper, .lower, .title, .smallCaps, .smallCapsForced]
  name
    | .asTyped => "ORIGINAL"
    | .upper => "UPPER"
    | .lower => "LOWER"
    | .title => "TITLE"
    | .smallCaps => "SMALL_CAPS"
    | .smallCapsForced => "SMALL_CAPS_FORCED"

instance : Named TextAlign where
  all := [.left, .center, .right, .justified]
  name
    | .left => "LEFT"
    | .center => "CENTER"
    | .right => "RIGHT"
    | .justified => "JUSTIFIED"

instance : Named TextAlignVertical where
  all := [.top, .center, .bottom]
  name
    | .top => "TOP"
    | .center => "CENTER"
    | .bottom => "BOTTOM"

instance : Named TextAutoResize where
  all := [.none, .widthAndHeight, .height, .truncate]
  name
    | .none => "NONE"
    | .widthAndHeight => "WIDTH_AND_HEIGHT"
    | .height => "HEIGHT"
    | .truncate => "TRUNCATE"

instance : Named HostLayoutMode where
  all := [.none, .horizontal, .vertical]
  name
    | .none => "NONE"
    | .horizontal => "HORIZONTAL"
    | .vertical => "VERTICAL"

instance : Named HostSizingMode where
  all := [.fixed, .auto]
  name
    | .fixed => "FIXED"
    | .auto => "AUTO"

instance : Named HostPrimaryAlign where
  all := [.start, .center, .stop, .spaceBetween]
  name
    | .start => "MIN"
    | .center => "CENTER"
    | .stop => "MAX"
    | .spaceBetween => "SPACE_BETWEEN"

instance : Named HostCounterAlign where
  all := [.start, .center, .stop, .baseline]
  name
    | .start => "MIN"
    | .center => "CENTER"
    | .stop => "MAX"
    | .baseline => "BASELINE"

namespace HostKind

def known : List HostKind :=
  [.rectangle, .ellipse, .line, .vector, .star, .polygon, .frame, .component, .componentSet,
    .componentInstance, .canvasSection, .group, .text, .booleanOperation]

def name : HostKind → String
  | rectangle => "RECTANGLE"
  | ellipse => "ELLIPSE"
  | line => "LINE"
  | vector => "VECTOR"
  | star => "STAR"
  | polygon => "POLYGON"
  | frame => "FRAME"
  | component => "COMPONENT"
  | componentSet => "COMPONENT_SET"
  | componentInstance => "INSTANCE"
  | canvasSection => "SECTION"
  | group => "GROUP"
  | text => "TEXT"
  | booleanOperation => "BOOLEAN_OPERATION"
  | other s => s

def ofName (s : String) : HostKind := (known.find? fun k => k.name == s).getD (.other s)

end HostKind

namespace Json

variable {α : Type}

def mixedWord : String := "mixed"

/-- The word is tried first, so the value is held when it is read as something else. -/
def mixed? (access : Access) (item : Json → Option α) (v : Json) : Option (Mixed α) :=
  if access.admits v then
    if v.caseName? = some mixedWord then some .indeterminate else (item v).map .known
  else none

def ofMixed (item : α → Json) : Mixed α → Json
  | .known a => item a
  | .indeterminate => text mixedWord

def hostKind? (v : Json) : Option HostKind := v.text?.map HostKind.ofName

def color? (v : Json) : Option Color := do
  let r ← Record.ofJson? ["r", "g", "b", "a"] v
  return ⟨← r.required "r" float?, ← r.required "g" float?, ← r.required "b" float?,
    ← r.withDefault "a" float? 1⟩

def ofColor (c : Color) : Json :=
  object [("r", ofFloat c.r), ("g", ofFloat c.g), ("b", ofFloat c.b), ("a", ofFloat c.a)]

def font? (v : Json) : Option Font := do
  let r ← Record.ofJson? ["family", "style"] v
  return ⟨← r.required "family" text?, ← r.required "style" text?⟩

def ofFont (f : Font) : Json := object [("family", text f.family), ("style", text f.style)]

def placement? (v : Json) : Option (Geometry Float) := do
  let r ← Record.ofJson? ["x", "y", "width", "height", "rotation"] v
  return ⟨← r.required "x" float?, ← r.required "y" float?, ← r.required "width" float?,
    ← r.required "height" float?, ← r.required "rotation" float?⟩

def ofGeometry (g : Geometry Float) : Json :=
  object [("x", ofFloat g.x), ("y", ofFloat g.y), ("width", ofFloat g.width),
    ("height", ofFloat g.height), ("rotation", ofFloat g.rotation)]

def offset? (v : Json) : Option (Point Float) := do
  let r ← Record.ofJson? ["x", "y"] v
  return ⟨← r.required "x" float?, ← r.required "y" float?⟩

def ofOffset (p : Point Float) : Json := object [("x", ofFloat p.x), ("y", ofFloat p.y)]

def shadow? (v : Json) : Option Shadow := do
  let r ← Record.ofJson? ["color", "offset", "radius", "spread", "visible"] v
  return ⟨← r.required "color" color?, ← r.withDefault "offset" offset? ⟨0, 0⟩,
    ← r.withDefault "radius" float? 0, ← r.withDefault "spread" float? 0,
    ← r.withDefault "visible" bool? true⟩

def shadowFields (s : Shadow) : List (String × Json) :=
  [("color", ofColor s.color), ("offset", ofOffset s.offset), ("radius", ofFloat s.radius),
    ("spread", ofFloat s.spread), ("visible", bool s.visible)]

def blur? (v : Json) : Option Blur := do
  let r ← Record.ofJson? ["radius", "visible"] v
  return ⟨← r.required "radius" float?, ← r.withDefault "visible" bool? true⟩

def blurFields (b : Blur) : List (String × Json) :=
  [("radius", ofFloat b.radius), ("visible", bool b.visible)]

def effect? (access : Access) (v : Json) : Option Effect := do
  let (tag, rest) ←
    v.tagged? access "type" ["DROP_SHADOW", "INNER_SHADOW", "LAYER_BLUR", "BACKGROUND_BLUR"]
  match tag with
  | "DROP_SHADOW" => rest |> shadow? |>.map .dropShadow
  | "INNER_SHADOW" => rest |> shadow? |>.map .innerShadow
  | "LAYER_BLUR" => rest |> blur? |>.map .layerBlur
  | "BACKGROUND_BLUR" => rest |> blur? |>.map .backgroundBlur
  | _ => none

def ofEffect : Effect → Json
  | .dropShadow s => object (("type", text "DROP_SHADOW") :: shadowFields s)
  | .innerShadow s => object (("type", text "INNER_SHADOW") :: shadowFields s)
  | .layerBlur b => object (("type", text "LAYER_BLUR") :: blurFields b)
  | .backgroundBlur b => object (("type", text "BACKGROUND_BLUR") :: blurFields b)

def measure? (v : Json) : Option Float := do
  let r ← Record.ofJson? ["value"] v
  r.required "value" float?

def ofMeasure (unit : String) (value : Float) : Json :=
  object [("unit", text unit), ("value", ofFloat value)]

def lineHeight? (access : Access) (v : Json) : Option LineHeight := do
  let (tag, rest) ← v.tagged? access "unit" ["AUTO", "PIXELS", "PERCENT"]
  match tag with
  | "AUTO" => if rest.hasNoFields then some .auto else none
  | "PIXELS" => rest.measure?.map .pixels
  | "PERCENT" => rest.measure?.map .percent
  | _ => none

def ofLineHeight : LineHeight → Json
  | .auto => object [("unit", text "AUTO")]
  | .pixels x => ofMeasure "PIXELS" x
  | .percent x => ofMeasure "PERCENT" x

def letterSpacing? (access : Access) (v : Json) : Option LetterSpacing := do
  let (tag, rest) ← v.tagged? access "unit" ["PIXELS", "PERCENT"]
  match tag with
  | "PIXELS" => rest.measure?.map .pixels
  | "PERCENT" => rest.measure?.map .percent
  | _ => none

def ofLetterSpacing : LetterSpacing → Json
  | .pixels x => ofMeasure "PIXELS" x
  | .percent x => ofMeasure "PERCENT" x

def row? : Json → Option (Float × Float × Float)
  | list [x, y, z] => do return (← x.float?, ← y.float?, ← z.float?)
  | _ => none

def ofRow (r : Float × Float × Float) : Json := list [ofFloat r.1, ofFloat r.2.1, ofFloat r.2.2]

def affine? : Json → Option (Affine Float)
  | list [u, v] => do return Affine.ofRows (← u.row?, ← v.row?)
  | _ => none

def ofAffine (m : Affine Float) : Json := list [ofRow m.rows.1, ofRow m.rows.2]

def gradientStop? (v : Json) : Option GradientStop := do
  let r ← Record.ofJson? ["position", "color"] v
  return ⟨← r.required "position" float?, ← r.required "color" color?⟩

def ofGradientStop (s : GradientStop) : Json :=
  object [("position", ofFloat s.position), ("color", ofColor s.color)]

def hostGradient? (v : Json) : Option HostGradient := do
  let r ← Record.ofJson? ["gradientStops", "gradientTransform", "opacity", "visible"] v
  return ⟨← r.required "gradientStops" (list? gradientStop?),
    ← r.withDefault "gradientTransform" affine? Affine.identity,
    ← r.withDefault "opacity" float? 1, ← r.withDefault "visible" bool? true⟩

def hostGradientFields (g : HostGradient) : List (String × Json) :=
  [("gradientStops", ofList ofGradientStop g.stops), ("gradientTransform", ofAffine g.transform),
    ("opacity", ofFloat g.opacity), ("visible", bool g.visible)]

def solidPaint? (v : Json) : Option HostPaint := do
  let r ← Record.ofJson? ["color", "opacity", "visible"] v
  return .solid (← r.required "color" color?) (← r.withDefault "opacity" float? 1)
    (← r.withDefault "visible" bool? true)

def imagePaint? (v : Json) : Option HostPaint := do
  let r ← Record.ofJson? ["imageHash", "scaleMode", "opacity", "visible"] v
  return .image (← r.nullable "imageHash" text?) (← r.withDefault "scaleMode" namedWithin? default)
    (← r.withDefault "opacity" float? 1) (← r.withDefault "visible" bool? true)

def hostPaint? (access : Access) (v : Json) : Option HostPaint := do
  let (tag, rest) ← v.tagged? access "type"
    ["SOLID", "GRADIENT_LINEAR", "GRADIENT_RADIAL", "GRADIENT_ANGULAR", "IMAGE"]
  match tag with
  | "SOLID" => rest.solidPaint?
  | "GRADIENT_LINEAR" => rest.hostGradient?.map .linear
  | "GRADIENT_RADIAL" => rest.hostGradient?.map .radial
  | "GRADIENT_ANGULAR" => rest.hostGradient?.map .angular
  | "IMAGE" => rest.imagePaint?
  | _ => if rest.hasNoFields then some .unsupported else none

def ofHostPaint : HostPaint → Json
  | .solid c o v => object [("type", text "SOLID"), ("color", ofColor c), ("opacity", ofFloat o),
      ("visible", bool v)]
  | .linear g => object (("type", text "GRADIENT_LINEAR") :: hostGradientFields g)
  | .radial g => object (("type", text "GRADIENT_RADIAL") :: hostGradientFields g)
  | .angular g => object (("type", text "GRADIENT_ANGULAR") :: hostGradientFields g)
  | .image hash mode o v => object [("type", text "IMAGE"), ("imageHash", ofOption text hash),
      ("scaleMode", ofNamed mode), ("opacity", ofFloat o), ("visible", bool v)]
  | .unsupported => object [("type", text "UNSUPPORTED")]

end Json

end Artboard
