import Artboard.Geometry.Compass
import Artboard.Normal.Context
import Artboard.Scene.Element
import Artboard.Text.Case
import Artboard.Text.Lines

/-!
# Figures and fills

How numbers, colors and weights are written in generated code, which paint of several counts, and
which runs a text has.
-/

namespace Artboard

namespace Figure

/-- The integer part, kept within 64 bits; no number counts as zero. -/
def saturate (x : Float) : Int :=
  match BinaryFloat.truncate? x with
  | some n => max (-twoTo 63) (min (twoTo 63 - 1) n)
  | none => if 0 < x then twoTo 63 - 1 else if x < 0 then -twoTo 63 else 0

def isWhole (x : Float) : Bool :=
  match BinaryFloat.truncate? x with
  | some n => Float.ofInt n == x
  | none => x == x

def withPlaces (places : Nat) (x : Float) : String :=
  let r := roundPlaces places x
  if isWhole r then toString (saturate r) else Decimal.text r

def length (x : Float) : String := withPlaces 2 x

def fraction (x : Float) : String := withPlaces 3 x

def radians (x : Float) : String := Decimal.text (roundPlaces 4 x)

def weight (w : Nat) : Nat := max 100 (min 900 ((w + 50) / 100 * 100))

def cssColor (c : Color) : String :=
  if 1 ≤ c.a then c.hex
  else
    "rgba(" ++ toString (Color.byte c.r) ++ ", " ++ toString (Color.byte c.g) ++ ", " ++
      toString (Color.byte c.b) ++ ", " ++ length c.alpha ++ ")"

end Figure

namespace Paint

def solidFill? (fills : List Paint) : Option Color := fills.findSome? solidColor?

def linear? : Paint → Option Gradient
  | linear g => some g
  | _ => none

end Paint

namespace Gradient

variable (g : Gradient)

def colors : List Color := g.stops.map fun s => s.color.withOpacity g.opacity

def compass : Compass := Compass.ofAngle g.transform.gradientAngle

end Gradient

namespace Compass

def suffix : Compass → String
  | leftToRight => "r"
  | topLeftToBottomRight => "br"
  | topToBottom => "b"
  | topRightToBottomLeft => "bl"
  | rightToLeft => "l"
  | bottomRightToTopLeft => "tl"
  | bottomToTop => "t"
  | bottomLeftToTopRight => "tr"

def unitPoints : Compass → String × String
  | leftToRight => (".leading", ".trailing")
  | topLeftToBottomRight => (".topLeading", ".bottomTrailing")
  | topToBottom => (".top", ".bottom")
  | topRightToBottomLeft => (".topTrailing", ".bottomLeading")
  | rightToLeft => (".trailing", ".leading")
  | bottomRightToTopLeft => (".bottomTrailing", ".topLeading")
  | bottomToTop => (".bottom", ".top")
  | bottomLeftToTopRight => (".bottomLeading", ".topTrailing")

def alignments : Compass → String × String
  | leftToRight => ("Alignment.centerLeft", "Alignment.centerRight")
  | topLeftToBottomRight => ("Alignment.topLeft", "Alignment.bottomRight")
  | topToBottom => ("Alignment.topCenter", "Alignment.bottomCenter")
  | topRightToBottomLeft => ("Alignment.topRight", "Alignment.bottomLeft")
  | rightToLeft => ("Alignment.centerRight", "Alignment.centerLeft")
  | bottomRightToTopLeft => ("Alignment.bottomRight", "Alignment.topLeft")
  | bottomToTop => ("Alignment.bottomCenter", "Alignment.topCenter")
  | bottomLeftToTopRight => ("Alignment.bottomLeft", "Alignment.topRight")

end Compass

namespace Axis

def extentName : Axis → String
  | horizontal => "width"
  | vertical => "height"

end Axis

namespace Element

variable {α : Type}

/-- The runs of a text; those the context has for its id go first. -/
def textRuns (c : Context) (e : Element α) : List TextRun :=
  match c.runs? e.props.id with
  | some rs => rs
  | none => (e.kind.content?.map (·.runs)).getD []

def isText (e : Element α) : Bool := e.kind.content?.isSome

def stroke? (e : Element α) : Option (Color × Float) :=
  match Paint.solidFill? e.props.strokes, e.props.strokeWeight with
  | some c, .known w => if 0 < w then some (c, w) else none
  | _, _ => none

/-- The length along a fixed axis as it is drawn: a line is as tall as its stroke is wide. -/
def drawnLength (e : Element Float) (axis : Axis) (length : Float) : Float :=
  match e.kind, axis, e.props.strokeWeight with
  | .line, .vertical, .known w => Scalar.greatest length w
  | _, _, _ => length

end Element

namespace BlendMode

def keyword? : BlendMode → Option String
  | passThrough | normal => none
  | darken => some "darken"
  | multiply => some "multiply"
  | colorBurn => some "color-burn"
  | lighten => some "lighten"
  | screen => some "screen"
  | colorDodge => some "color-dodge"
  | overlay => some "overlay"
  | softLight => some "soft-light"
  | hardLight => some "hard-light"
  | difference => some "difference"
  | exclusion => some "exclusion"
  | hue => some "hue"
  | saturation => some "saturation"
  | color => some "color"
  | luminosity => some "luminosity"

end BlendMode

namespace TextCase

def titleFrom (atStart : Bool) : List Char → List Char
  | [] => []
  | c :: rest => (if atStart then Case.upperChar c else [c]) ++ titleFrom (isBlankChar c) rest

/-- Small capitals cannot be spelled out, so they change nothing. -/
def apply (case : TextCase) (s : String) : String :=
  match case with
  | upper => String.ofList (Case.upper s.toList)
  | lower => String.ofList (Case.lower s.toList)
  | title => String.ofList (titleFrom true s.toList)
  | asTyped | smallCaps | smallCapsForced => s

end TextCase

end Artboard
