import Artboard.Code.Template.Tag
import Artboard.Text.Lines

/-!
# Text around tags

A text cut at its tags. Backslashes before braces keep them from opening a tag, and tags may trim
the blanks around them.
-/

namespace Artboard

namespace Template

def opensTag : List Char → Bool
  | '\x7b' :: '\x7b' :: _ => true
  | _ => false

/-- The text up to the next tag, and the rest. A backslash before braces makes them text and is
left out; of several backslashes one is left out too, but the braces then open a tag. -/
def splitText : List Char → List Char × List Char
  | [] => ([], [])
  | '\\' :: '\x7b' :: '\x7b' :: '\x7b' :: '\x7b' :: rest =>
    let (cs, after) := splitText rest
    ('\x7b' :: '\x7b' :: '\x7b' :: '\x7b' :: cs, after)
  | '\\' :: '\x7b' :: '\x7b' :: rest =>
    let (cs, after) := splitText rest
    ('\x7b' :: '\x7b' :: cs, after)
  | '\\' :: '\\' :: rest =>
    let (slashes, after) := rest.span (· == '\\')
    if opensTag after then ('\\' :: slashes, after)
    else
      let (cs, after) := splitText ('\\' :: rest)
      ('\\' :: cs, after)
  | c :: rest =>
    if opensTag (c :: rest) then ([], c :: rest)
    else
      let (cs, after) := splitText rest
      (c :: cs, after)

def parts? : Nat → List Char → Option (List (List Char × Tag) × List Char)
  | 0, _ => none
  | steps + 1, cs =>
    match splitText cs with
    | (text, []) => some ([], text)
    | (text, rest) => do
      let (tag, after) ← Reading.tag rest
      let (tags, last) ← parts? steps after
      return ((text, tag) :: tags, last)

def trimStart (cs : List Char) : List Char := cs.dropWhile isBlankChar

def trimEnd (cs : List Char) : List Char := (trimStart cs.reverse).reverse

/-- The pieces of a text whose first characters may follow a tag that trims. Blanks alone are kept
at the very end. -/
def pieces (trims : Bool) : List (List Char × Tag) → List Char → Template
  | [], last =>
    [.text (String.ofList
      (if trims && !last.all JsonToken.isBlank then trimStart last else last))]
  | (text, tag) :: rest, last =>
    let started := if trims then trimStart text else text
    .text (String.ofList (if tag.trimsBefore then trimEnd started else started)) ::
      tag.piece :: pieces tag.trimsAfter rest last

/-- A template is malformed if a tag is not closed, does not start with a name, or holds a literal
without a value. -/
def ofText? (s : String) : Option Template := do
  let (tags, last) ← parts? (s.length + 1) s.toList
  let t := pieces false tags last
  if t.all Piece.isReadable then some t else none

end Template

end Artboard
