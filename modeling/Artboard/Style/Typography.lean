import Artboard.Style.Effect
import Artboard.Style.Paint

/-!
# Typography

Fonts, the measures of a line, and text as runs of one style each.
-/

namespace Artboard

structure Font where
  family : String
  style : String
  deriving BEq, DecidableEq

namespace Font

instance : Inhabited Font := ⟨⟨"Inter", "Regular"⟩⟩

def occursIn (word : List Char) : List Char → Bool
  | [] => word.isEmpty
  | c :: rest => word.isPrefixOf (c :: rest) || occursIn word rest

def isItalic (f : Font) : Bool := occursIn "italic".toList (f.style.toList.map Char.toLower)

end Font

inductive LineHeight
  | auto
  | pixels (value : Float)
  | percent (value : Float)
  deriving BEq, Inhabited

def LineHeight.pixels? (size : Float) : LineHeight → Option Float
  | auto => none
  | pixels v => some v
  | percent v => some (size * v / 100)

inductive LetterSpacing
  | pixels (value : Float)
  | percent (value : Float)
  deriving BEq

namespace LetterSpacing

instance : Inhabited LetterSpacing := ⟨pixels 0⟩

def inPixels (size : Float) : LetterSpacing → Float
  | pixels v => v
  | percent v => size * v / 100

end LetterSpacing

inductive TextDecoration
  | none
  | underline
  | strikethrough
  deriving DecidableEq, Repr, Inhabited

inductive TextCase
  | asTyped
  | upper
  | lower
  | title
  | smallCaps
  | smallCapsForced
  deriving DecidableEq, Repr, Inhabited

inductive TextAlign
  | left
  | center
  | right
  | justified
  deriving DecidableEq, Repr, Inhabited

inductive TextAlignVertical
  | top
  | center
  | bottom
  deriving DecidableEq, Repr, Inhabited

inductive TextAutoResize
  | none
  | widthAndHeight
  | height
  | truncate
  deriving DecidableEq, Repr, Inhabited

structure TextRun where
  characters : String
  font : Font
  weight : Nat
  size : Float
  lineHeight : LineHeight
  letterSpacing : LetterSpacing
  decoration : TextDecoration
  case : TextCase
  fills : List Paint
  deriving BEq

/-- The content of a text node. Size and font are indeterminate where the runs differ. -/
structure TextContent where
  characters : String
  fontSize : Mixed Float
  font : Mixed Font
  alignHorizontal : TextAlign
  alignVertical : TextAlignVertical
  autoResize : TextAutoResize
  runs : List TextRun
  deriving BEq, Inhabited

end Artboard
