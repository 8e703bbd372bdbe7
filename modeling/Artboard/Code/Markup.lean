import Artboard.Code.Escape
import Artboard.Code.Figures
import Artboard.Scene.Branch

/-!
# Markup

The document both markup formats write: a paragraph for each text, a box for each container or
group with its children inside, an empty box for everything else. The formats differ in the one
attribute that holds the style.
-/

namespace Artboard

structure Attribute where
  name : String
  value : String

inductive Inline
  | plain (written : String)
  | span (style : Attribute) (written : String)

inductive Markup
  | paragraph (attributes : List Attribute) (content : List Inline)
  | leaf (attributes : List Attribute)
  | box (attributes : List Attribute) (children : List Markup)

namespace Markup

def Attribute.text (a : Attribute) : String := a.name ++ "=\"" ++ a.value ++ "\""

def tag (name : String) (attributes : List Attribute) : String :=
  "<" ++ name ++ String.join (attributes.map fun a => " " ++ Attribute.text a) ++ ">"

def inlineText : Inline → String
  | .plain s => s
  | .span style s => tag "span" [style] ++ s ++ "</span>"

def spaces (n : Nat) : String := String.ofList (List.replicate n ' ')

mutual

def lines (depth : Nat) : Markup → List String
  | paragraph as content =>
    [spaces depth ++ tag "p" as ++ String.join (content.map inlineText) ++ "</p>"]
  | leaf as => [spaces depth ++ tag "div" as ++ "</div>"]
  | box as children =>
    (spaces depth ++ tag "div" as) :: linesOfAll (depth + 2) children ++ [spaces depth ++ "</div>"]

def linesOfAll (depth : Nat) : List Markup → List String
  | [] => []
  | m :: rest => lines depth m ++ linesOfAll depth rest

end

/-- How a format styles what it writes: the attribute that holds the style, and its pieces. -/
structure Styling where
  attributeName : String
  separator : String
  node : Site Float → List String
  text : TextContent → List String
  run : TextRun → List String

namespace Styling

variable (s : Styling)

def style (pieces : List String) : Attribute := ⟨s.attributeName, s.separator.intercalate pieces⟩

def name (e : Element Float) : Attribute := ⟨"data-name", Escape.markup e.props.name⟩

def paragraph (c : Context) (site : Site Float) (content : TextContent) : Markup :=
  let own := s.node site ++ s.text content
  let attributes (pieces : List String) := [name site.element, s.style pieces]
  match site.element.textRuns c with
  | [] => .paragraph (attributes own) [.plain (Escape.markup content.characters)]
  | [r] => .paragraph (attributes (own ++ s.run r)) [.plain (Escape.markup r.characters)]
  | runs =>
    .paragraph (attributes own)
      (runs.map fun r => .span (s.style (s.run r)) (Escape.markup r.characters))

mutual

def document (c : Context) : Branch Float → Markup
  | .node site children =>
    let e := site.element
    match e.kind with
    | .text content => s.paragraph c site content
    | .container _ | .group => .box [name e, s.style (s.node site)] (documents c children)
    | _ => .leaf [name e, s.style (s.node site)]

def documents (c : Context) : List (Branch Float) → List Markup
  | [] => []
  | b :: rest => document c b :: documents c rest

end

def body (c : Context) (branches : List (Branch Float)) : String :=
  "\n".intercalate (linesOfAll 0 (s.documents c branches))

end Styling

end Markup

end Artboard
