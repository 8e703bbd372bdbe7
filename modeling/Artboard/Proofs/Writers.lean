import Artboard.Code.Framework
import Artboard.Proofs.Pieces

/-!
# Two writers

Each markup format walks the branches with a writer of its own, which adds line after line. Both
write the lines of the document that is built first and laid out afterwards: what is written already
stays in front, so that a list of branches is written one behind the other.
-/

open List

namespace Artboard

namespace Markup

namespace Styling

variable (s : Styling) (c : Context)

/-- What a writer does with a branch of each kind, and with a list of branches. -/
structure IsWriter (write : Nat → Array String → Branch Float → Array String)
    (writeAll : Nat → Array String → List (Branch Float) → Array String) : Prop where
  text : ∀ n lines {site content} children, site.element.kind = .text content →
    write n lines (.node site children) = lines.push (spaces n ++ tag "p" (s.heading c site) ++
      String.join ((s.inlines (site.element.textRuns c) content).map inlineText) ++ "</p>")
  box : ∀ n lines {site} children, site.element.kind.isParent = true →
    write n lines (.node site children) =
      (writeAll (n + 2) (lines.push (spaces n ++ tag "div" (s.heading c site))) children).push
        (spaces n ++ "</div>")
  leaf : ∀ n lines {site} children, site.element.kind.isParent = false →
    site.element.kind.content? = none →
      write n lines (.node site children) =
        lines.push (spaces n ++ tag "div" (s.heading c site) ++ "</div>")
  nil : ∀ n lines, writeAll n lines [] = lines
  cons : ∀ n lines b rest, writeAll n lines (b :: rest) = writeAll n (write n lines b) rest

namespace IsWriter

variable {s c} {write : Nat → Array String → Branch Float → Array String}
  {writeAll : Nat → Array String → List (Branch Float) → Array String}

mutual

theorem toList_write (h : s.IsWriter c write writeAll) (n : Nat) (out : Array String) :
    ∀ b : Branch Float, (write n out b).toList = out.toList ++ lines n (s.document c b)
  | .node site children => by
    cases hcontent : site.element.kind.content? with
    | some content =>
      have hk := Kind.content?_eq_some_iff.mp hcontent
      rw [h.text n out children hk, document_of_text s c children hk, lines, Array.toList_push]
    | none =>
      cases hparent : site.element.kind.isParent with
      | true =>
        -- the children go behind the line of the opening tag
        rw [h.box n out children hparent, document_of_isParent s c children hparent, lines,
          Array.toList_push, toList_writeAll h (n + 2) _ children, Array.toList_push]
        simp
      | false =>
        rw [h.leaf n out children hparent hcontent, document_of_leaf s c children hparent hcontent,
          lines, Array.toList_push]

theorem toList_writeAll (h : s.IsWriter c write writeAll) (n : Nat) (out : Array String) :
    ∀ bs : List (Branch Float),
      (writeAll n out bs).toList = out.toList ++ linesOfAll n (s.documents c bs)
  | [] => by rw [h.nil, documents, linesOfAll, append_nil]
  | b :: bs => by
    rw [h.cons, toList_writeAll h n _ bs, toList_write h n out b, documents, linesOfAll,
      append_assoc]

end

end IsWriter

end Styling

end Markup

namespace Html

theorem tag_eq (e : Element Float) (css : List Declaration) (name : String) :
    Markup.tag name [Markup.Styling.name e, styling.style (css.map Declaration.text)] =
      "<" ++ name ++ attributes e.props.name css ++ ">" := by
  apply String.toList_injective
  simp [attributes, styleText, Markup.tag, Markup.Attribute.text, Markup.Styling.name,
    Markup.Styling.style, styling]

theorem span_eq (r : TextRun) :
    Markup.inlineText (.span (styling.style (styling.run r)) (Escape.markup r.characters)) =
      span r := by
  apply String.toList_injective
  simp [span, styleText, Markup.inlineText, Markup.tag, Markup.Attribute.text,
    Markup.Styling.style, styling]

theorem paragraph_eq (content : TextContent) : ∀ runs : List TextRun,
    (paragraph content runs).1.map Declaration.text =
        styling.text content ++ styling.single runs ∧
      (paragraph content runs).2 =
        String.join ((styling.inlines runs content).map Markup.inlineText)
  | [] => by simp [paragraph, styling, Markup.Styling.single, Markup.Styling.inlines,
      Markup.inlineText]
  | [r] => by simp [paragraph, styling, Markup.Styling.single, Markup.Styling.inlines,
      Markup.inlineText]
  | r :: r' :: rs => by
    simp [paragraph, Markup.Styling.single, Markup.Styling.inlines, span_eq, Function.comp_def]
    rfl

theorem heading_of_content?_eq_none (c : Context) {site : Site Float}
    (h : site.element.kind.content? = none) : styling.heading c site =
      [Markup.Styling.name site.element,
        styling.style ((declarations site).map Declaration.text)] := by
  rw [Markup.Styling.heading, Markup.Styling.pieces_of_content?_eq_none _ c h]
  rfl

theorem isWriter (c : Context) : styling.IsWriter c (write c) (writeAll c) where
  text n lines site content children hk := by
    obtain ⟨hown, hinner⟩ := paragraph_eq content (site.element.textRuns c)
    have hpieces : styling.pieces c site =
        (declarations site ++ (paragraph content (site.element.textRuns c)).1).map
          Declaration.text := by
      rw [Markup.Styling.pieces_of_text _ c hk, ← hown, map_append]
      rfl
    rw [Markup.Styling.heading, hpieces, tag_eq, ← hinner, write]
    simp [hk, String.append_assoc]
  box n lines site children hparent := by
    rw [heading_of_content?_eq_none c (Kind.content?_of_isParent hparent), tag_eq]
    cases hk : site.element.kind with
    | container l => simp [write, hk, String.append_assoc]
    | group => simp [write, hk, String.append_assoc]
    | _ => simp [hk, Kind.isParent] at hparent
  leaf n lines site children hparent hcontent := by
    have hempty : ∀ s : String, s ++ ">" ++ "</div>" = s ++ "></div>" := by
      simp [String.append_assoc]
    rw [heading_of_content?_eq_none c hcontent, tag_eq, write]
    cases hk : site.element.kind with
    | container l => simp [hk, Kind.isParent] at hparent
    | group => simp [hk, Kind.isParent] at hparent
    | text t => simp [hk, Kind.content?] at hcontent
    | _ => simp [← String.append_assoc, hempty]
  nil _ _ := rfl
  cons _ _ _ _ := rfl

theorem body_eq (c : Context) (bs : List (Branch Float)) : body c bs = styling.body c bs := by
  rw [body, (isWriter c).toList_writeAll, Markup.Styling.body]
  rfl

end Html

namespace Tailwind

theorem tag_eq (e : Element Float) (own : List String) (name : String) :
    Markup.tag name [Markup.Styling.name e, styling.style own] =
      "<" ++ name ++ " data-name=\"" ++ Escape.markup e.props.name ++ "\" class=\"" ++
        " ".intercalate own ++ "\">" := by
  apply String.toList_injective
  simp [Markup.tag, Markup.Attribute.text, Markup.Styling.name, Markup.Styling.style, styling]

theorem span_eq (r : TextRun) :
    Markup.inlineText (.span (styling.style (styling.run r)) (Escape.markup r.characters)) =
      span r := by
  apply String.toList_injective
  simp [span, Markup.inlineText, Markup.tag, Markup.Attribute.text, Markup.Styling.style, styling]

theorem paragraph_eq (content : TextContent) : ∀ runs : List TextRun,
    (paragraph content runs).1 = styling.text content ++ styling.single runs ∧
      (paragraph content runs).2 =
        String.join ((styling.inlines runs content).map Markup.inlineText)
  | [] => by simp [paragraph, styling, Markup.Styling.single, Markup.Styling.inlines,
      Markup.inlineText]
  | [r] => by simp [paragraph, styling, Markup.Styling.single, Markup.Styling.inlines,
      Markup.inlineText]
  | r :: r' :: rs => by
    simp [paragraph, Markup.Styling.single, Markup.Styling.inlines, span_eq, Function.comp_def]
    rfl

theorem heading_of_content?_eq_none (c : Context) {site : Site Float}
    (h : site.element.kind.content? = none) : styling.heading c site =
      [Markup.Styling.name site.element, styling.style (classes site)] := by
  rw [Markup.Styling.heading, Markup.Styling.pieces_of_content?_eq_none _ c h]
  rfl

theorem isWriter (c : Context) : styling.IsWriter c (write c) (writeAll c) where
  text n lines site content children hk := by
    obtain ⟨hmore, hinner⟩ := paragraph_eq content (site.element.textRuns c)
    have hpieces : styling.pieces c site =
        classes site ++ (paragraph content (site.element.textRuns c)).1 := by
      rw [Markup.Styling.pieces_of_text _ c hk, ← hmore]
      rfl
    rw [Markup.Styling.heading, hpieces, tag_eq, ← hinner, write]
    simp [hk, String.append_assoc]
  box n lines site children hparent := by
    rw [heading_of_content?_eq_none c (Kind.content?_of_isParent hparent), tag_eq]
    cases hk : site.element.kind with
    | container l => simp [write, hk, String.append_assoc]
    | group => simp [write, hk, String.append_assoc]
    | _ => simp [hk, Kind.isParent] at hparent
  leaf n lines site children hparent hcontent := by
    have hempty : ∀ s : String, s ++ "\">" ++ "</div>" = s ++ "\"></div>" := by
      simp [String.append_assoc]
    rw [heading_of_content?_eq_none c hcontent, tag_eq, write]
    cases hk : site.element.kind with
    | container l => simp [hk, Kind.isParent] at hparent
    | group => simp [hk, Kind.isParent] at hparent
    | text t => simp [hk, Kind.content?] at hcontent
    | _ => simp [← String.append_assoc, hempty]
  nil _ _ := rfl
  cons _ _ _ _ := rfl

theorem body_eq (c : Context) (bs : List (Branch Float)) : body c bs = styling.body c bs := by
  rw [body, (isWriter c).toList_writeAll, Markup.Styling.body]
  rfl

end Tailwind

end Artboard
