import Artboard.Proofs.Classes
import Artboard.Proofs.Indentation
import Artboard.Proofs.Unescaping
import Artboard.Proofs.WidgetWords

/-!
# Neat code

The words of widgets have no white space but plain blanks, and a literal closes on the line it is
opened on. So no line of the code of a widget ends in a carriage return, whatever the texts are, and
what ends the code is to be seen.
-/

open List

namespace Artboard

open Lines

theorem HasPlainBlanks.isSettled {s : String} (h : HasPlainBlanks s) : IsSettled s.toList :=
  isSettled_of_notMem fun hmem => absurd (h _ hmem rfl) (by decide)

theorem IsWord.isNeat {s : String} (h : IsWord s) : IsNeat s.toList where
  settled := isSettled_of_notMem fun hmem => absurd (h.isSolid _ hmem) (by decide)
  visible := by
    rcases eq_nil_or_concat s.toList with hnil | ⟨t, c, hs⟩
    · exact absurd (String.toList_eq_nil_iff.mp hnil) h.ne_empty
    · rw [concat_eq_append] at hs
      exact ⟨t, c, hs, h.isSolid c (by simp [hs])⟩

theorem isSettled_strings {ss : List String} (h : ∀ s ∈ ss, IsSettled s.toList) :
    IsSettled (String.join ss).toList := by
  induction ss with
  | nil => trivial
  | cons s ss ih =>
    rw [forall_mem_cons] at h
    simpa [String.toList_join] using h.1.append (ih h.2)

theorem isSettled_intercalate {t : String} (ht : IsSettled t.toList) {ss : List String}
    (h : ∀ s ∈ ss, IsSettled s.toList) : IsSettled (t.intercalate ss).toList := by
  induction ss with
  | nil => trivial
  | cons s ss ih =>
    rw [forall_mem_cons] at h
    cases ss with
    | nil => simpa using h.1
    | cons u ss =>
      rw [String.intercalate_cons_cons, String.toList_append, String.toList_append]
      exact (h.1.append ht).append (ih h.2)

/-! ## Words of numbers -/

namespace Decimal

theorem text_ne_empty {φ : Type} [BinaryFloat φ] (x : φ) : text x ≠ "" := by
  have hpositional : ∀ n p, positional n p ≠ [] := by
    intro n p
    unfold positional digits
    split
    · exact Nat.toDigits_ne_nil
    · simp only
      split
      · exact Nat.toDigits_ne_nil
      · simp
  have hsigned : ∀ s {cs : List Char}, cs ≠ [] → String.ofList (signed s cs) ≠ "" := by
    intro s cs hcs
    unfold signed
    split <;> simp [hcs]
  unfold text
  split
  · exact hsigned _ (hpositional _ _)
  · exact hsigned _ (by simp)
  · exact hsigned _ (by simp)
  · decide

end Decimal

theorem isWord_int (n : Int) : IsWord (toString n) := by
  refine ⟨?_, (isNumeric_int n).isSolid⟩
  cases n with
  | ofNat m => exact Nat.repr_ne_empty
  | negSucc m =>
    intro h
    have hempty := congrArg String.toList h
    change ("-" ++ (m + 1).repr).toList = _ at hempty
    simp at hempty

theorem isWord_withPlaces (places : Nat) (x : Float) : IsWord (Figure.withPlaces places x) := by
  refine ⟨?_, (Figure.isNumeric_withPlaces places x).isSolid⟩
  unfold Figure.withPlaces
  simp only
  split
  · exact (isWord_int _).ne_empty
  · exact Decimal.text_ne_empty _

/-! ## Expressions -/

namespace Expr

mutual

/-- Names and labels have no white space but plain blanks, and codes on their own none at all. -/
def IsTerse : Expr → Prop
  | atom code => IsWord code
  | literal _ => True
  | number _ _ => True
  | call _ name as => HasPlainBlanks name ∧ AreTerseArguments as
  | list _ items => AreTerse items
  | method r name as => (IsTerse r ∧ HasPlainBlanks name) ∧ AreTerseArguments as
  | sum terms => AreTerse terms

def AreTerse : List Expr → Prop
  | [] => True
  | e :: rest => IsTerse e ∧ AreTerse rest

def AreTerseArguments : List Argument → Prop
  | [] => True
  | (label, e) :: rest => (HasPlainBlanks label ∧ IsTerse e) ∧ AreTerseArguments rest

end

attribute [simp] IsTerse AreTerse AreTerseArguments

@[simp] theorem isTerse_length (x : Float) : (length x).IsTerse := trivial

theorem areTerse_iff : ∀ {es : List Expr}, AreTerse es ↔ ∀ e ∈ es, e.IsTerse
  | [] => by simp
  | e :: es => by rw [AreTerse, areTerse_iff, forall_mem_cons]

theorem areTerseArguments_iff : ∀ {as : List Argument},
    AreTerseArguments as ↔ ∀ x ∈ as, HasPlainBlanks x.1 ∧ x.2.IsTerse
  | [] => by simp
  | x :: as => by rw [AreTerseArguments, areTerseArguments_iff, forall_mem_cons]

@[simp] theorem areTerseArguments_append {as bs : List Argument} :
    AreTerseArguments (as ++ bs) ↔ AreTerseArguments as ∧ AreTerseArguments bs := by
  simp only [areTerseArguments_iff, forall_mem_append]

theorem isSettled_arrange (tall : Bool) {members : List String}
    (h : ∀ m ∈ members, IsSettled m.toList) : IsSettled (arrange tall members).toList := by
  unfold arrange
  split
  · rw [String.toList_append]
    refine IsSettled.append (isSettled_of_notMem (by decide)) (isSettled_strings ?_)
    refine forall_mem_map.mpr fun m hm => ?_
    rw [String.toList_append, indentLines, String.toList_ofList]
    exact (isSettled_indent (h m hm) 2).append (isSettled_of_notMem (by decide))
  · exact isSettled_intercalate (isSettled_of_notMem (by decide)) h

theorem isNeat_labelled {label code : String} (hlabel : HasPlainBlanks label)
    (hcode : IsNeat code.toList) : IsNeat (labelled label code).toList := by
  unfold labelled
  split
  · exact hcode
  · rw [String.toList_append, String.toList_append]
    exact .prepend (hlabel.isSettled.append (isSettled_of_notMem (by decide))) hcode

theorem isNeat_closed {s closing : String} {c : Char} (hs : IsSettled s.toList)
    (hclosing : closing.toList = [c]) (hc : isBlankChar c = false) :
    IsNeat (s ++ closing).toList := by
  rw [String.toList_append, hclosing]
  exact isNeat_snoc hs hc

section
variable {l : Literals}

mutual

/-- **The code of a terse expression is neat,** whatever the texts of its literals are. -/
theorem isNeat_text (hl : ∀ s, IsNeat (l.quote s).toList) : ∀ {e : Expr}, e.IsTerse →
    IsNeat (e.text l).toList
  | atom _, h => IsWord.isNeat h
  | literal s, _ => hl s
  | number places x, _ => (isWord_withPlaces places x).isNeat
  | call tall name as, h => by
    have has := isSettled_arrange tall fun m hm => (isNeat_argumentTexts hl h.2 m hm).settled
    refine isNeat_closed ?_ (c := ')') rfl rfl
    rw [String.toList_append, String.toList_append]
    exact (h.1.isSettled.append (isSettled_of_notMem (by decide))).append has
  | list tall items, h => by
    have hitems := isSettled_arrange tall fun m hm => (isNeat_texts hl h m hm).settled
    refine isNeat_closed ?_ (c := ']') rfl rfl
    rw [String.toList_append]
    exact (isSettled_of_notMem (by decide)).append hitems
  | method r name as, h => by
    have has := isSettled_arrange false fun m hm => (isNeat_argumentTexts hl h.2 m hm).settled
    have hr := (isNeat_text hl h.1.1).settled
    refine isNeat_closed ?_ (c := ')') rfl rfl
    simp only [String.toList_append]
    exact (((hr.append (isSettled_of_notMem (by decide))).append h.1.2.isSettled).append
      (isSettled_of_notMem (by decide))).append has
  | sum terms, h => by
    have hterms := isSettled_intercalate (t := " + ") (isSettled_of_notMem (by decide))
      fun m hm => (isNeat_texts hl h m hm).settled
    refine isNeat_closed ?_ (c := ')') rfl rfl
    rw [String.toList_append]
    exact (isSettled_of_notMem (by decide)).append hterms

theorem isNeat_texts (hl : ∀ s, IsNeat (l.quote s).toList) : ∀ {es : List Expr}, AreTerse es →
    ∀ m ∈ texts l es, IsNeat m.toList
  | [], _ => forall_mem_nil _
  | _ :: _, h => forall_mem_cons.mpr ⟨isNeat_text hl h.1, isNeat_texts hl h.2⟩

theorem isNeat_argumentTexts (hl : ∀ s, IsNeat (l.quote s).toList) : ∀ {as : List Argument},
    AreTerseArguments as → ∀ m ∈ argumentTexts l as, IsNeat m.toList
  | [], _ => forall_mem_nil _
  | (_, _) :: _, h => forall_mem_cons.mpr
      ⟨isNeat_labelled h.1.1 (isNeat_text hl h.1.2), isNeat_argumentTexts hl h.2⟩

end

end

end Expr

namespace Flutter

open Artboard.Expr

theorem isNeat_quote (s : String) : IsNeat (literals.quote s).toList := by
  have hfeed : '\n' ∉ s.toList.flatMap Escape.singleQuotedChar :=
    (Escape.isSafeLiteral_flatMap Escape.singleMarking s.toList).feed
  have hquote : (literals.quote s).toList =
      ('\'' :: s.toList.flatMap Escape.singleQuotedChar) ++ ['\''] := by
    rw [Literals.quote, String.toList_ofList]
    rfl
  rw [hquote]
  exact ⟨isSettled_snoc_of_notMem (by simp [hfeed]) (by decide) (by decide), _, _, rfl, rfl⟩

/-! ## Words of widgets -/

@[simp] theorem hasPlainBlanks_extentName (axis : Axis) : HasPlainBlanks axis.extentName := by
  cases axis <;> decide

@[simp] theorem isTerse_color (c : Color) : (color c).IsTerse := by
  have hdigits : IsSolid (String.ofList
      ([c.a, c.r, c.g, c.b].flatMap fun x => Color.hexDigits (Color.byte x))) := by
    refine IsNumeric.isSolid fun d hd => ?_
    rw [String.toList_ofList] at hd
    obtain ⟨x, _, hx⟩ := mem_flatMap.mp hd
    exact Figure.isNumeric_hexDigits _ d hx
  exact ⟨by decide, ⟨by decide, IsWord.append (by decide) hdigits⟩, trivial⟩

@[simp] theorem isTerse_blur (radius : Float) : (blur radius).IsTerse := by
  simp +decide [blur, inline]

theorem isTerse_edgeInsets (p : Padding Float) : AreTerseArguments (edgeInsets p) := by
  unfold edgeInsets
  split
  · simp
  · split <;> simp +decide [inline]

theorem isTerse_gradient {name : String} {ends : List Argument} (g : Gradient)
    (hname : HasPlainBlanks name) (hends : AreTerseArguments ends) :
    AreTerseArguments (gradient name ends g) := by
  have hcolors : AreTerse (g.colors.map color) := by simp [areTerse_iff]
  have hstops : AreTerse (g.stops.map fun s => .length s.position) := by simp [areTerse_iff]
  have hall : AreTerseArguments (ends ++ [("colors", .list false (g.colors.map color)),
      ("stops", .list false (g.stops.map fun s => .length s.position))]) := by
    simp +decide [hends, hcolors, hstops]
  exact ⟨⟨by decide, hname, hall⟩, trivial⟩

theorem isTerse_paint (p : Paint) : AreTerseArguments (paint p) := by
  cases p with
  | solid c o => simp +decide [paint]
  | linear g =>
    have hbegin : IsWord g.compass.alignments.1 := by cases g.compass <;> decide
    have hend : IsWord g.compass.alignments.2 := by cases g.compass <;> decide
    exact isTerse_gradient g (by decide) (by simp +decide [hbegin, hend])
  | radial g => exact isTerse_gradient g (by decide) trivial
  | angular g => exact isTerse_gradient g (by decide) trivial
  | image i => simp +decide [paint, pictureColor, inline]

section
variable (e : Element Float)

theorem isTerse_background : AreTerseArguments (background e) := by
  unfold background
  split
  · cases Paint.solidFill? e.props.strokes <;> simp +decide
  · cases e.props.fills.getLast? with
    | none => simp
    | some p => exact isTerse_paint p

theorem isTerse_border : AreTerseArguments (border e) := by
  unfold border
  split
  · simp
  · cases e.stroke? with
    | none => simp
    | some s => cases e.props.strokeAlign <;> simp +decide [inline, strokeAlign]

theorem isTerse_radius : AreTerseArguments (radius e) := by
  unfold radius
  split
  · simp +decide [inline]
  · split
    · simp
    · split <;> simp +decide [inline, circular]

theorem isTerse_shadows : AreTerseArguments (shadows e) := by
  unfold shadows
  simp only
  split
  · simp
  · refine ⟨⟨by decide, areTerse_iff.mpr fun x hx => ?_⟩, trivial⟩
    obtain ⟨effect, _, heffect⟩ := mem_filterMap.mp hx
    cases effect <;> simp at heffect
    rw [← heffect]
    simp +decide [shadow, inline]

theorem isTerse_decoration : AreTerseArguments (decoration e) := by
  unfold decoration
  split
  · simp
  · simp
  · simp only
    split
    · simp
    · simp +decide [tall, isTerse_background, isTerse_border, isTerse_radius, isTerse_shadows]

theorem isTerse_insets : AreTerseArguments (insets e) := by
  unfold insets
  cases e.kind.layout? with
  | none => simp
  | some l => exact isTerse_edgeInsets l.padding

theorem isTerse_flex : AreTerseArguments (flex e) := by
  unfold flex
  simp only
  split
  · exact ⟨⟨by decide, isWord_int _⟩, trivial⟩
  · simp

end

/-! ## Words of texts -/

theorem isTerse_textAlign (a : TextAlign) : AreTerseArguments (textAlign a) := by
  cases a <;> simp +decide [textAlign]

theorem isTerse_lineHeight (r : TextRun) : AreTerseArguments (lineHeight r) := by
  unfold lineHeight
  split
  · split <;> simp +decide
  · simp

theorem isTerse_look (r : TextRun) : AreTerseArguments (look r) := by
  have hweight : IsWord ("FontWeight.w" ++ toString (Figure.weight r.weight)) :=
    IsWord.append (by decide) (isNumeric_nat _).isSolid
  have hdecoration : AreTerseArguments (textDecoration r.decoration) := by
    cases r.decoration <;> simp +decide [textDecoration]
  have hcolor : AreTerseArguments
      ((Paint.solidFill? r.fills).map fun c => ("color", color c)).toList := by
    cases Paint.solidFill? r.fills <;> simp +decide
  unfold look
  simp only [areTerseArguments_append]
  refine ⟨⟨⟨⟨⟨⟨?_, ?_⟩, ?_⟩, isTerse_lineHeight r⟩, ?_⟩, hdecoration⟩, hcolor⟩
  · simp +decide
  · split
    · trivial
    · exact ⟨⟨by decide, hweight⟩, trivial⟩
  · split <;> simp +decide
  · split <;> simp +decide

theorem isTerse_style (r : TextRun) : HasPlainBlanks (style r).1 ∧ (style r).2.IsTerse := by
  have hlabel : HasPlainBlanks "style" := by decide
  have hfamily : HasPlainBlanks "fontFamily" := by decide
  rw [style_eq]
  exact ⟨hlabel, by decide, ⟨hfamily, trivial⟩, isTerse_look r⟩

theorem isTerse_text (runs : List TextRun) (content : TextContent) :
    (text runs content).IsTerse := by
  have halign := isTerse_textAlign content.alignHorizontal
  have hspans : AreTerse (runs.map span) := by
    rw [areTerse_iff]
    intro e he
    obtain ⟨r, _, rfl⟩ := mem_map.mp he
    have htext : HasPlainBlanks "text" := by decide
    exact ⟨by decide, ⟨htext, trivial⟩, isTerse_style r, trivial⟩
  have hempty : HasPlainBlanks "" := by decide
  have hchildren : HasPlainBlanks "children" := by decide
  unfold text
  simp only
  split
  · exact ⟨by decide, ⟨hempty, trivial⟩, halign⟩
  · exact ⟨by decide, ⟨hempty, trivial⟩, isTerse_style _, halign⟩
  · exact ⟨by decide, ⟨hempty, by decide, ⟨hchildren, hspans⟩, trivial⟩, halign⟩

/-! ## Words of boxes and wrappers -/

section
variable (site : Site Float)

theorem isTerse_wrap {name : String} {as : List Argument} {w : Expr} (hname : HasPlainBlanks name)
    (has : AreTerseArguments as) (hw : w.IsTerse) : (wrap name as w).IsTerse := by
  simp +decide [wrap, tall, hname, has, hw]

theorem isTerse_boxed {child : Option Expr} (h : ∀ w ∈ child, w.IsTerse) :
    (boxed site child).IsTerse := by
  have hdimension : ∀ axis, AreTerseArguments (dimension site axis) := by
    intro axis
    unfold dimension
    split
    · simp
    · split <;> simp +decide
  have hclip : AreTerseArguments (clipBehavior site.element) := by
    unfold clipBehavior
    split <;> simp +decide
  have hname : HasPlainBlanks (boxName site.element) := by
    unfold boxName
    split <;> decide
  unfold boxed
  simp only
  split
  · simp +decide [tall, hdimension, isTerse_insets, hclip, isTerse_decoration]
  · rename_i w
    have hw : w.IsTerse := h w rfl
    split
    · exact hw
    · simp +decide [tall, hname, hdimension, isTerse_insets, hclip, isTerse_decoration, hw]

theorem isTerse_effects : ∀ (xs : List Effect) {w : Expr}, w.IsTerse → (xs.foldl effect w).IsTerse
  | [], _, hw => hw
  | x :: xs, w, hw => by
    refine isTerse_effects xs ?_
    cases x with
    | layerBlur b => exact isTerse_wrap (by decide) (by simp +decide) hw
    | backgroundBlur b =>
      exact isTerse_wrap (by decide) trivial (isTerse_wrap (by decide) (by simp +decide) hw)
    | dropShadow s => exact hw
    | innerShadow s => exact hw

theorem isTerse_wrapped {child : Option Expr} (h : ∀ w ∈ child, w.IsTerse) :
    (wrapped site child).IsTerse := by
  have hradians : ∀ x, IsWord (Figure.radians x) := fun x =>
    ⟨Decimal.text_ne_empty _, (Decimal.isNumeric_text _).isSolid⟩
  have hclipped : (clipped site.element (boxed site child)).IsTerse := by
    unfold clipped
    split
    · exact isTerse_wrap (by decide) trivial (isTerse_boxed site h)
    · exact isTerse_boxed site h
  have hfaded : ∀ {w : Expr}, w.IsTerse → (faded site.element w).IsTerse := by
    intro w hw
    unfold faded
    split
    · exact isTerse_wrap (by decide) (by simp +decide) hw
    · exact hw
  have hturned : ∀ {w : Expr}, w.IsTerse → (turned site.element w).IsTerse := by
    intro w hw
    unfold turned
    simp only
    split
    · exact isTerse_wrap (by decide) (by simp +decide [hradians]) hw
    · exact hw
  -- the wrappers go around the box from the inside out
  have hdressed := hturned (hfaded (isTerse_effects site.element.props.effects hclipped))
  unfold wrapped placed
  simp only
  split
  · exact isTerse_wrap (by decide) (by simp +decide) hdressed
  · split
    · exact isTerse_wrap (by decide) (isTerse_flex _) hdressed
    · exact hdressed

/-! ## Widgets -/

theorem isTerse_arranged {ws : List Expr} (hws : AreTerse ws) : (arranged site ws).IsTerse := by
  have hstack : ∀ clips, (stack clips ws).IsTerse := by
    intro clips
    cases clips <;> simp +decide [stack, tall, hws]
  have hflow : ∀ main l sizing, (flow main l sizing ws).IsTerse := by
    intro main l sizing
    have hname : HasPlainBlanks (flowName main) := by cases main <;> decide
    have hmain : AreTerseArguments (mainAxisAlignment l.distribution) := by
      cases l.distribution <;> simp +decide [mainAxisAlignment]
    have hcross : AreTerseArguments (crossAxisAlignment main l.alignment) := by
      cases main <;> cases l.alignment <;> simp +decide [crossAxisAlignment]
    have hspaced : AreTerse (spaced main l ws) := by
      unfold spaced
      split
      · rw [areTerse_iff] at hws ⊢
        exact forall_mem_intersperse (by simp +decide [inline]) hws
      · exact hws
    cases sizing <;> simp +decide [flow, tall, hname, hmain, hcross, hspaced, leastSize]
  unfold arranged
  split
  · exact hstack _
  · split
    · exact hstack _
    · exact hflow _ _ _

end

mutual

theorem isTerse_widget (c : Context) : ∀ b : Branch Float, (widget c b).IsTerse
  | .node site children => by
    have hsome : ∀ {w : Expr}, w.IsTerse → ∀ v ∈ some w, v.IsTerse := by
      rintro w hw _ ⟨⟩
      exact hw
    have hchildren := isTerse_arranged site (areTerse_widgets c children)
    unfold widget
    simp only
    cases hk : site.element.kind with
    | container l => exact isTerse_wrapped site (hsome hchildren)
    | group => exact isTerse_wrapped site (hsome hchildren)
    | text content => exact isTerse_wrapped site (hsome (isTerse_text _ _))
    | boolean => exact isTerse_wrapped site (hsome ⟨by decide, trivial⟩)
    | _ => exact isTerse_wrapped site nofun

theorem areTerse_widgets (c : Context) : ∀ bs : List (Branch Float), AreTerse (widgets c bs)
  | [] => trivial
  | b :: bs => ⟨isTerse_widget c b, areTerse_widgets c bs⟩

end

theorem isTerse_single {ws : List Expr} (h : AreTerse ws) : (single ws).IsTerse := by
  unfold single
  split
  · exact h.1
  · simp +decide [tall, leastSize, h]

end Flutter

end Artboard
