import Artboard.Code.Framework
import Artboard.Proofs.Vocabulary

/-!
# Words of widgets

Nothing in the code of a widget brings brackets or quotes of its own, and what dresses a widget has
neither literals nor the names that only a parent and a child may use together. So the brackets of
the code match, and its literals are the texts and the families of the runs.
-/

open List

namespace Artboard

open Artboard.Expr

@[simp] theorem isPlain_radians (x : Float) : IsPlain (Figure.radians x) :=
  (Decimal.isNumeric_text _).isPlain

theorem isPlain_hexDigits (xs : List Float32) :
    IsPlain (String.ofList (xs.flatMap fun x => Color.hexDigits (Color.byte x))) := by
  intro c hc
  rw [String.toList_ofList] at hc
  obtain ⟨x, _, hx⟩ := mem_flatMap.mp hc
  exact CodeReader.isPlain_of_isNumeric (Figure.isNumeric_hexDigits _ c hx)

namespace Flutter

def details (q : Prop) : Vocabulary where
  names n := n ∉ ["Stack", "Row", "Column", "Positioned", "Expanded"]
  literals := q

section
variable {q : Prop}

@[simp] theorem names_details {n : String} :
    (details q).names n ↔ n ∉ ["Stack", "Row", "Column", "Positioned", "Expanded"] := Iff.rfl

@[simp] theorem literals_details : (details q).literals ↔ q := Iff.rfl

@[simp] theorem keeps_color (c : Color) : (color c).Keeps (details q) := by
  have hcode : IsPlain ("0x" ++ String.ofList
      ([c.a, c.r, c.g, c.b].flatMap fun x => Color.hexDigits (Color.byte x))) :=
    isPlain_append.mpr ⟨by decide, isPlain_hexDigits _⟩
  exact ⟨⟨by simp, by decide⟩, ⟨by decide, hcode⟩, trivial⟩

@[simp] theorem keeps_pictureColor : pictureColor.Keeps (details q) := by
  simp +decide [pictureColor, inline]

@[simp] theorem keeps_blur (radius : Float) : (blur radius).Keeps (details q) := by
  simp +decide [blur, inline]

theorem keeps_edgeInsets (p : Padding Float) : KeepsArguments (details q) (edgeInsets p) := by
  unfold edgeInsets
  split
  · simp
  · split <;> simp +decide [inline]

/-! ## Decoration -/

theorem keeps_gradient {name : String} {ends : List Argument} (g : Gradient)
    (hname : (details q).names name ∧ IsPlain name) (hends : KeepsArguments (details q) ends) :
    KeepsArguments (details q) (gradient name ends g) := by
  have hcolors : KeepsAll (details q) (g.colors.map color) := by simp [keepsAll_iff]
  have hstops : KeepsAll (details q) (g.stops.map fun s => .length s.position) := by
    simp [keepsAll_iff]
  have hall : KeepsArguments (details q) (ends ++ [("colors", .list false (g.colors.map color)),
      ("stops", .list false (g.stops.map fun s => .length s.position))]) := by
    simp +decide [hends, hcolors, hstops]
  exact ⟨⟨by decide, hname, hall⟩, trivial⟩

theorem keeps_paint (p : Paint) : KeepsArguments (details q) (paint p) := by
  cases p with
  | solid c o => simp +decide [paint]
  | linear g =>
    have hbegin : IsPlain g.compass.alignments.1 := by cases g.compass <;> decide
    have hend : IsPlain g.compass.alignments.2 := by cases g.compass <;> decide
    exact keeps_gradient g ⟨by simp, by decide⟩ (by simp +decide [hbegin, hend])
  | radial g => exact keeps_gradient g ⟨by simp, by decide⟩ trivial
  | angular g => exact keeps_gradient g ⟨by simp, by decide⟩ trivial
  | image i => simp +decide [paint]

section
variable (e : Element Float)

theorem keeps_background : KeepsArguments (details q) (background e) := by
  unfold background
  split
  · cases Paint.solidFill? e.props.strokes <;> simp +decide
  · cases e.props.fills.getLast? with
    | none => simp
    | some p => exact keeps_paint p

theorem keeps_border : KeepsArguments (details q) (border e) := by
  unfold border
  split
  · simp
  · cases e.stroke? with
    | none => simp
    | some s => cases e.props.strokeAlign <;> simp +decide [inline, strokeAlign]

theorem keeps_radius : KeepsArguments (details q) (radius e) := by
  unfold radius
  split
  · simp +decide [inline]
  · split
    · simp
    · split <;> simp +decide [inline, circular]

theorem keeps_shadows : KeepsArguments (details q) (shadows e) := by
  unfold shadows
  simp only
  split
  · simp
  · refine ⟨⟨by decide, keepsAll_iff.mpr fun x hx => ?_⟩, trivial⟩
    obtain ⟨effect, _, heffect⟩ := mem_filterMap.mp hx
    cases effect <;> simp at heffect
    rw [← heffect]
    simp +decide [shadow, inline]

theorem keeps_decoration : KeepsArguments (details q) (decoration e) := by
  have hparts : KeepsArguments (details q) (background e ++ border e ++ radius e ++ shadows e) := by
    simp [keeps_background, keeps_border, keeps_radius, keeps_shadows]
  unfold decoration
  split
  · simp
  · simp
  · simp only
    split
    · simp
    · exact ⟨⟨by decide, ⟨by simp, by decide⟩, hparts⟩, trivial⟩

end

/-! ## Boxes and wrappers -/

section
variable (site : Site Float) (e : Element Float)

theorem keeps_dimension (axis : Axis) : KeepsArguments (details q) (dimension site axis) := by
  unfold dimension
  split
  · simp
  · split <;> simp +decide

theorem keeps_insets : KeepsArguments (details q) (insets e) := by
  unfold insets
  cases e.kind.layout? with
  | none => simp
  | some l => exact keeps_edgeInsets l.padding

theorem keeps_clipBehavior : KeepsArguments (details q) (clipBehavior e) := by
  unfold clipBehavior
  split <;> simp +decide

theorem keeps_flex : KeepsArguments (details q) (flex e) := by
  unfold flex
  simp only
  split <;> simp +decide

end

/-! ## Text -/

theorem keeps_lineHeight (r : TextRun) : KeepsArguments (details q) (lineHeight r) := by
  unfold lineHeight
  split
  · split <;> simp +decide
  · simp

theorem keeps_textAlign (a : TextAlign) : KeepsArguments (details q) (textAlign a) := by
  cases a <;> simp +decide [textAlign]

def look (r : TextRun) : List Argument :=
  let spacing := r.letterSpacing.inPixels r.size
  [("fontSize", .length r.size)] ++
    (if r.weight = 400 then []
    else [("fontWeight", .atom ("FontWeight.w" ++ toString (Figure.weight r.weight)))]) ++
    (if r.font.isItalic then [("fontStyle", .atom "FontStyle.italic")] else []) ++
    lineHeight r ++
    (if spacing == 0 then [] else [("letterSpacing", .length spacing)]) ++
    textDecoration r.decoration ++
    ((Paint.solidFill? r.fills).map fun c => ("color", color c)).toList

theorem style_eq (r : TextRun) : style r =
    ("style", inline "TextStyle" (("fontFamily", .literal r.font.family) :: look r)) := by
  simp [style, look]

theorem keeps_look (r : TextRun) : KeepsArguments (details q) (look r) := by
  have hweight : IsPlain ("FontWeight.w" ++ toString (Figure.weight r.weight)) :=
    isPlain_append.mpr ⟨by decide, isPlain_nat _⟩
  have hdecoration : KeepsArguments (details q) (textDecoration r.decoration) := by
    cases r.decoration <;> simp +decide [textDecoration]
  have hcolor : KeepsArguments (details q)
      ((Paint.solidFill? r.fills).map fun c => ("color", color c)).toList := by
    cases Paint.solidFill? r.fills <;> simp +decide
  unfold look
  simp only [keepsArguments_append]
  refine ⟨⟨⟨⟨⟨⟨?_, ?_⟩, ?_⟩, keeps_lineHeight r⟩, ?_⟩, hdecoration⟩, hcolor⟩
  · simp +decide
  · split
    · trivial
    · exact ⟨⟨by decide, hweight⟩, trivial⟩
  · split <;> simp +decide
  · split <;> simp +decide

theorem keeps_style (r : TextRun) : IsPlain (style r).1 ∧ (style r).2.Keeps (details True) := by
  have hlabel : IsPlain "style" := by decide
  have hfamily : IsPlain "fontFamily" := by decide
  rw [style_eq]
  exact ⟨hlabel, ⟨by simp, by decide⟩, ⟨hfamily, trivial⟩, keeps_look r⟩

@[simp] theorem spoken_style (r : TextRun) : (style r).2.spoken = [r.font.family] := by
  have hlook : spokenOfArguments (look r) = [] :=
    spokenOfArguments_eq_nil (v := details False) (by simp) (keeps_look r)
  rw [style_eq]
  simp [inline, hlook]

theorem keeps_span (r : TextRun) : (span r).Keeps (details True) := by
  have htext : IsPlain "text" := by decide
  exact ⟨⟨by simp, by decide⟩, ⟨htext, trivial⟩, keeps_style r, trivial⟩

@[simp] theorem spoken_span (r : TextRun) : (span r).spoken = r.spoken := by
  simp [span, inline, runLiteral, TextRun.spoken]

theorem keeps_text (runs : List TextRun) (content : TextContent) :
    (text runs content).Keeps (details True) := by
  have halign := keeps_textAlign (q := True) content.alignHorizontal
  have hspans : KeepsAll (details True) (runs.map span) := by
    rw [keepsAll_iff]
    intro e he
    obtain ⟨r, _, rfl⟩ := mem_map.mp he
    exact keeps_span r
  have hempty : IsPlain "" := by decide
  have hchildren : IsPlain "children" := by decide
  unfold text
  simp only
  split
  · exact ⟨⟨by simp, by decide⟩, ⟨hempty, trivial⟩, halign⟩
  · exact ⟨⟨by simp, by decide⟩, ⟨hempty, trivial⟩, keeps_style _, halign⟩
  · exact ⟨⟨by simp, by decide⟩,
      ⟨hempty, ⟨by simp, by decide⟩, ⟨hchildren, hspans⟩, trivial⟩, halign⟩

theorem spoken_text (runs : List TextRun) (content : TextContent) :
    (text runs content).spoken = content.spoken runs := by
  have halign : spokenOfArguments (textAlign content.alignHorizontal) = [] :=
    spokenOfArguments_eq_nil (v := details False) (by simp) (keeps_textAlign _)
  have hspans : spokenOfAll (runs.map span) = runs.flatMap TextRun.spoken := by
    rw [spokenOfAll_eq, flatMap_map]
    simp only [spoken_span]
  unfold text TextContent.spoken
  simp only
  split
  · simp [tall, halign]
  · simp [tall, halign, runLiteral, TextRun.spoken]
  · simp [tall, halign, hspans]

end

/-! ## Wrappers -/

def dressed (site : Site Float) (child : Option Expr) : Expr :=
  let e := site.element
  turned e (faded e (e.props.effects.foldl effect (clipped e (boxed site child))))

theorem wrapped_eq (site : Site Float) (child : Option Expr) :
    wrapped site child = placed site (dressed site child) := rfl

theorem keeps_boxed_none (site : Site Float) : (boxed site none).Keeps (details False) := by
  unfold boxed tall
  simp +decide [keeps_dimension, keeps_insets, keeps_clipBehavior, keeps_decoration]

section
variable {P : Expr → Prop} (site : Site Float)
  (hwrap : ∀ {name as w}, (tall name as).Keeps (details False) → P w → P (wrap name as w))
include hwrap

theorem boxed_induction {w : Expr} (hw : P w) : P (boxed site (some w)) := by
  unfold boxed
  simp only
  split
  · exact hw
  · apply hwrap _ hw
    unfold boxName tall
    split <;>
      simp +decide [keeps_dimension, keeps_insets, keeps_clipBehavior, keeps_decoration]

theorem dressed_induction {child : Option Expr} (hbox : P (boxed site child)) :
    P (dressed site child) := by
  have hclipped : P (clipped site.element (boxed site child)) := by
    unfold clipped
    split
    · exact hwrap (by simp +decide [tall]) hbox
    · exact hbox
  have heffect : ∀ {x : Effect} {w : Expr}, P w → P (effect w x) := by
    intro x w hw
    cases x with
    | layerBlur b => exact hwrap (by simp +decide [tall]) hw
    | backgroundBlur b =>
      exact hwrap (by simp +decide [tall]) (hwrap (by simp +decide [tall]) hw)
    | dropShadow s => exact hw
    | innerShadow s => exact hw
  have heffects : ∀ (xs : List Effect) {w : Expr}, P w → P (xs.foldl effect w) := by
    intro xs
    induction xs with
    | nil => exact fun hw => hw
    | cons x xs ih => exact fun hw => ih (heffect hw)
  -- the wrappers go around the box from the inside out
  have hfaded := heffects site.element.props.effects hclipped
  unfold dressed turned faded
  simp only
  split
  · apply hwrap (by simp +decide [tall])
    split
    · exact hwrap (by simp +decide [tall]) hfaded
    · exact hfaded
  · split
    · exact hwrap (by simp +decide [tall]) hfaded
    · exact hfaded

end

theorem speaks_call {name label : String} (hname : IsPlain name) (hlabel : IsPlain label)
    {as : List Argument} (has : KeepsArguments (details False) as) {x : Expr} {us : List String}
    (hx : x.Speaks us) : (tall name (as ++ [(label, x)])).Speaks us := by
  have hsilent := spokenOfArguments_eq_nil (by simp) has
  constructor
  · unfold tall
    simp [hname, hlabel, has.any, hx.keeps]
  · unfold tall
    simp [hsilent, hx.spoken_eq]

theorem speaks_wrap {name : String} (hname : IsPlain name) {as : List Argument}
    (has : KeepsArguments (details False) as) {w : Expr} {us : List String} (hw : w.Speaks us) :
    (wrap name as w).Speaks us :=
  speaks_call hname (by decide) has hw

section
variable (site : Site Float) {us : List String}

theorem speaks_placed {w : Expr} (hw : w.Speaks us) : (placed site w).Speaks us := by
  unfold placed
  simp only
  split
  · exact speaks_wrap (by decide) (by simp +decide) hw
  · split
    · exact speaks_wrap (by decide) (keeps_flex _) hw
    · exact hw

theorem speaks_wrapped {child : Option Expr} (h : (boxed site child).Speaks us) :
    (wrapped site child).Speaks us := by
  rw [wrapped_eq]
  apply speaks_placed
  exact dressed_induction (P := fun w => w.Speaks us) site
    (fun has hw => speaks_wrap has.1.2 has.2 hw) h

theorem speaks_wrapped_some {w : Expr} (hw : w.Speaks us) : (wrapped site (some w)).Speaks us :=
  speaks_wrapped site (boxed_induction (P := fun w => w.Speaks us) site
    (fun has hw => speaks_wrap has.1.2 has.2 hw) hw)

/-! ## Widgets -/

theorem speaks_listing {name : String} (hname : IsPlain name) {as : List Argument}
    (has : KeepsArguments (details False) as) {ws : List Expr} (hws : Each Speaks ws us) :
    (tall name (as ++ [("children", .list true ws)])).Speaks us :=
  speaks_call hname (by decide) has ⟨keepsAll_of_each hws, spokenOfAll_of_each hws⟩

theorem keeps_flowArguments (main : Axis) (l : ContainerLayout Float) (s : AxisSizing Float) :
    KeepsArguments (details False) (mainAxisAlignment l.distribution ++
      crossAxisAlignment main l.alignment ++
        (match s with
          | .hug => [leastSize]
          | .fixed _ | .fill => [])) := by
  have hmain : KeepsArguments (details False) (mainAxisAlignment l.distribution) := by
    cases l.distribution <;> simp +decide [mainAxisAlignment]
  have hcross : KeepsArguments (details False) (crossAxisAlignment main l.alignment) := by
    cases main <;> cases l.alignment <;> simp +decide [crossAxisAlignment]
  rw [keepsArguments_append, keepsArguments_append]
  refine ⟨⟨hmain, hcross⟩, ?_⟩
  cases s <;> simp +decide [leastSize]

theorem keeps_gap (main : Axis) (length : Float) :
    (inline "SizedBox" [(main.extentName, .length length)]).Keeps (details False) := by
  unfold inline
  simp +decide

theorem speaks_arranged {ws : List Expr} (hws : Each Speaks ws us) :
    (arranged site ws).Speaks us := by
  have hstack : ∀ clips, (stack clips ws).Speaks us := by
    intro clips
    exact speaks_listing (by decide) (by cases clips <;> simp +decide) hws
  have hspaced : ∀ main l, Each Speaks (spaced main l ws) us := by
    intro main l
    unfold spaced
    split
    · exact hws.intersperse ((keeps_gap main _).speaks (by simp))
    · exact hws
  unfold arranged
  split
  · exact hstack _
  · split
    · exact hstack _
    · rename_i l _ _ main _
      have hname : IsPlain (flowName main) := by cases main <;> decide
      exact speaks_listing hname (keeps_flowArguments main l _) (hspaced main l)

end

mutual

theorem speaks_widget (c : Context) : ∀ b : Branch Float, (widget c b).Speaks (b.spoken [] c)
  | .node site children => by
    have hchildren := speaks_arranged site (each_widgets c children)
    have hnone := (keeps_boxed_none site).speaks (by simp)
    unfold widget Branch.spoken
    simp only
    cases hk : site.element.kind with
    | container l => exact speaks_wrapped_some site hchildren
    | group => exact speaks_wrapped_some site hchildren
    | text content =>
      exact speaks_wrapped_some site ⟨(keeps_text _ _).any, spoken_text _ _⟩
    | boolean =>
      have hplaceholder : (inline "const Placeholder" []).Speaks [] :=
        ⟨by simp +decide [inline], rfl⟩
      exact speaks_wrapped_some site hplaceholder
    | _ => exact speaks_wrapped site hnone

theorem each_widgets (c : Context) : ∀ bs : List (Branch Float),
    Each Speaks (widgets c bs) (Branch.spokenOfAll [] c bs)
  | [] => .nil
  | b :: bs => .cons (speaks_widget c b) (each_widgets c bs)

end

theorem speaks_single {ws : List Expr} {us : List String} (h : Each Speaks ws us) :
    (single ws).Speaks us := by
  have hcolumn : (tall "Column" ([("crossAxisAlignment", .atom "CrossAxisAlignment.start"),
      leastSize] ++ [("children", .list true ws)])).Speaks us :=
    speaks_listing (by decide) (by simp +decide [leastSize]) h
  unfold single
  split
  · rename_i w
    cases h with
    | cons hw hnil =>
      cases hnil
      rwa [append_nil]
  · exact hcolumn

theorem literals_isSound : literals.IsSound where
  isDelimiter := .inr rfl
  run_escape c ps ls w := by
    have hescaped := fun {c} (hc : c ≠ '\n') =>
      CodeReader.run_escaped (d := '\'') (.inr rfl) hc ps ls w
    unfold literals Escape.singleQuotedChar
    simp only
    split
    · exact hescaped (by decide)
    · exact hescaped (by decide)
    · exact hescaped (by decide)
    · exact hescaped (by decide)
    · exact hescaped (by decide)
    · rename_i hslash hquote _ hfeed _
      exact CodeReader.run_inside hquote hslash hfeed ps ls w

/-- **The brackets of a body match, and its literals are the texts of the branches.** -/
theorem readsAs_body (c : Context) (bs : List (Branch Float)) :
    ReadsAs '\'' (body c bs) ((Branch.spokenOfAll [] c bs).map Escape.singleQuoted) := by
  have hspeaks := speaks_single (each_widgets c bs)
  have hyields := yields_text literals_isSound _ hspeaks.keeps [] []
  rw [hspeaks.spoken_eq, nil_append] at hyields
  exact readsAs_of_run (.inr rfl) hyields

end Flutter

end Artboard
