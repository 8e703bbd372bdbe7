import Artboard.Code.Tailwind

/-!
# Tags of branches

The tag of a branch in a document: its attributes, where a text adds to the style what is its own
and what styles its only run, and for a text what stands inside.
-/

open List

namespace Artboard

theorem Kind.content?_eq_some_iff {α : Type} {k : Kind α} {t : TextContent} :
    k.content? = some t ↔ k = .text t := by
  cases k <;> simp [content?]

theorem Kind.content?_of_isParent {α : Type} {k : Kind α} (h : k.isParent = true) :
    k.content? = none := by
  cases k <;> first | rfl | simp [isParent] at h

namespace Markup

def attributes : Markup → List Attribute
  | paragraph as _ => as
  | leaf as => as
  | box as _ => as

namespace Styling

variable (s : Styling) (c : Context)

def single : List TextRun → List String
  | [r] => s.run r
  | _ => []

def pieces (site : Site Float) : List String :=
  match site.element.kind with
  | .text content => s.node site ++ (s.text content ++ s.single (site.element.textRuns c))
  | _ => s.node site

def heading (site : Site Float) : List Attribute :=
  [name site.element, s.style (s.pieces c site)]

def inlines (runs : List TextRun) (content : TextContent) : List Inline :=
  match runs with
  | [] => [.plain (Escape.markup content.characters)]
  | [r] => [.plain (Escape.markup r.characters)]
  | rs => rs.map fun r => .span (s.style (s.run r)) (Escape.markup r.characters)

variable {site : Site Float} (children : List (Branch Float))

theorem pieces_of_text {content : TextContent} (h : site.element.kind = .text content) :
    s.pieces c site =
      s.node site ++ (s.text content ++ s.single (site.element.textRuns c)) := by
  simp [pieces, h]

theorem pieces_of_content?_eq_none (h : site.element.kind.content? = none) :
    s.pieces c site = s.node site := by
  unfold pieces
  cases hk : site.element.kind with
  | text content => simp [hk, Kind.content?] at h
  | _ => rfl

theorem document_of_text {content : TextContent} (h : site.element.kind = .text content) :
    s.document c (.node site children) =
      .paragraph (s.heading c site) (s.inlines (site.element.textRuns c) content) := by
  unfold heading
  rw [s.pieces_of_text c h, document]
  simp only [h]
  unfold paragraph
  match site.element.textRuns c with
  | [] => simp [inlines, single]
  | [r] => simp [inlines, single]
  | _ :: _ :: _ => simp [inlines, single]

theorem document_of_isParent (h : site.element.kind.isParent = true) :
    s.document c (.node site children) = .box (s.heading c site) (s.documents c children) := by
  unfold document heading
  cases hk : site.element.kind with
  | container l => simp [pieces, hk]
  | group => simp [pieces, hk]
  | _ => simp [hk, Kind.isParent] at h

theorem document_of_leaf (hparent : site.element.kind.isParent = false)
    (htext : site.element.kind.content? = none) :
    s.document c (.node site children) = .leaf (s.heading c site) := by
  unfold document heading
  rw [s.pieces_of_content?_eq_none c htext]
  cases hk : site.element.kind with
  | container l => simp [hk, Kind.isParent] at hparent
  | group => simp [hk, Kind.isParent] at hparent
  | text t => simp [hk, Kind.content?] at htext
  | _ => simp [hk]

theorem attributes_document :
    (s.document c (.node site children)).attributes = s.heading c site := by
  cases hcontent : site.element.kind.content? with
  | some content =>
    have hk := Kind.content?_eq_some_iff.mp hcontent
    rw [document_of_text s c children hk, attributes]
  | none =>
    cases hparent : site.element.kind.isParent with
    | true => rw [document_of_isParent s c children hparent, attributes]
    | false => rw [document_of_leaf s c children hparent hcontent, attributes]

theorem documents_eq_map : ∀ bs : List (Branch Float), s.documents c bs = bs.map (s.document c)
  | [] => rfl
  | b :: bs => by rw [documents, documents_eq_map bs, map_cons]

end Styling

end Markup

end Artboard
