import Artboard.Code.Framework
import Artboard.Proofs.Branches
import Artboard.Proofs.Frames
import Mathlib.Data.List.TFAE
import Mathlib.Tactic.TFAE

/-!
# Sizes in boxes

Under the wrappers of a widget lies the box of its element, whose arguments name the axes it sets. A
share of the parent's main axis is left to the outermost wrapper. Read back for one axis, all four
formats say what the sizing of the element is.
-/

open List

namespace Artboard

namespace Expr

def name? : Expr → Option String
  | call _ name _ => some name
  | _ => none

def arguments : Expr → List Argument
  | call _ _ as => as
  | _ => []

end Expr

namespace Flutter

/-- The widgets that only change how their child is shown or placed. -/
def isWrapper (name : String) : Bool :=
  ["Positioned", "Expanded", "Transform.rotate", "Opacity", "ImageFiltered", "BackdropFilter",
    "ClipRect"].contains name

mutual

def core : Expr → Expr
  | .call tall name as =>
    if isWrapper name then (coreOfChild as).getD (.call tall name as) else .call tall name as
  | e => e

def coreOfChild : List Argument → Option Expr
  | [] => none
  | (label, e) :: rest => if label = "child" then some (core e) else coreOfChild rest

end

/-- What a widget says of an axis by the arguments of its box and by its outermost wrapper. -/
def Says (w : Expr) (axis : Axis) (main : Bool) : Extent → Prop
  | .fixed => ∃ l, (axis.extentName, .length l) ∈ (core w).arguments
  | .hug => (∀ v, (axis.extentName, v) ∉ (core w).arguments) ∧
      ¬(main = true ∧ w.name? = some "Expanded")
  | .share => main = true ∧ w.name? = some "Expanded" ∧
      ∀ v, (axis.extentName, v) ∉ (core w).arguments
  | .stretch => main = false ∧ (axis.extentName, .atom "double.infinity") ∈ (core w).arguments

/-! ## Wrappers -/

theorem core_of_not_isWrapper {tall : Bool} {name : String} {as : List Argument}
    (h : isWrapper name = false) : core (.call tall name as) = .call tall name as := by
  simp [core, h]

theorem coreOfChild_append {as : List Argument} (h : ∀ p ∈ as, p.1 ≠ "child") (w : Expr) :
    coreOfChild (as ++ [("child", w)]) = some (core w) := by
  induction as with
  | nil => simp [coreOfChild]
  | cons p as ih =>
    obtain ⟨label, e⟩ := p
    rw [forall_mem_cons] at h
    rw [cons_append, coreOfChild, if_neg h.1, ih h.2]

theorem core_wrap {name : String} (hname : isWrapper name = true) {as : List Argument}
    (h : ∀ p ∈ as, p.1 ≠ "child") (w : Expr) : core (wrap name as w) = core w := by
  unfold wrap tall
  rw [core, if_pos hname, coreOfChild_append h, Option.getD_some]

theorem name?_wrap (name : String) (as : List Argument) (w : Expr) :
    (wrap name as w).name? = some name := rfl

section
variable (e : Element Float) (w : Expr)

theorem core_clipped : core (clipped e w) = core w := by
  unfold clipped
  split
  · exact core_wrap rfl (by simp) w
  · rfl

theorem core_effect (x : Effect) : core (effect w x) = core w := by
  cases x with
  | layerBlur b => exact core_wrap rfl (by simp) w
  | backgroundBlur b =>
    unfold effect
    rw [core_wrap rfl (by simp), core_wrap rfl (by simp)]
  | dropShadow s => rfl
  | innerShadow s => rfl

theorem core_effects (xs : List Effect) : core (xs.foldl effect w) = core w := by
  induction xs generalizing w with
  | nil => rfl
  | cons x xs ih => rw [foldl_cons, ih, core_effect]

theorem core_faded : core (faded e w) = core w := by
  unfold faded
  split
  · exact core_wrap rfl (by simp) w
  · rfl

theorem core_turned : core (turned e w) = core w := by
  unfold turned
  simp only
  split
  · exact core_wrap rfl (by simp) w
  · rfl

end

theorem core_placed (site : Site Float) (w : Expr) : core (placed site w) = core w := by
  have hflex : ∀ p ∈ flex site.element, p.1 ≠ "child" := by
    unfold flex
    simp only
    split <;> simp
  unfold placed
  simp only
  split
  · exact core_wrap rfl (by simp) w
  · split
    · exact core_wrap rfl hflex w
    · rfl

theorem core_wrapped (site : Site Float) (child : Option Expr) :
    core (wrapped site child) = core (boxed site child) := by
  unfold wrapped
  rw [core_placed, core_turned, core_faded, core_effects, core_clipped]

/-! ## Shares -/

theorem name?_effects {xs : List Effect} {w : Expr} (h : w.name? ≠ some "Expanded") :
    (xs.foldl effect w).name? ≠ some "Expanded" := by
  induction xs generalizing w with
  | nil => exact h
  | cons x xs ih =>
    rw [foldl_cons]
    apply ih
    cases x with
    | layerBlur b => simp [effect, name?_wrap]
    | backgroundBlur b => simp [effect, name?_wrap]
    | dropShadow s => exact h
    | innerShadow s => exact h

theorem name?_turned_faded {e : Element Float} {w : Expr} (h : w.name? ≠ some "Expanded") :
    (turned e (faded e w)).name? ≠ some "Expanded" := by
  unfold turned
  simp only
  split
  · simp [name?_wrap]
  · unfold faded
    split
    · simp [name?_wrap]
    · exact h

theorem name?_boxed {site : Site Float} {child : Option Expr}
    (h : ∀ w ∈ child, w.name? ≠ some "Expanded") : (boxed site child).name? ≠ some "Expanded" := by
  unfold boxed
  cases child with
  | none => simp [tall, Expr.name?]
  | some w =>
    simp only
    split
    · exact h w rfl
    · unfold boxName
      split <;> simp [tall, Expr.name?]

section
variable {site : Site Float}

theorem expandedAxis?_eq_some_iff {axis : Axis} :
    expandedAxis? site = some axis ↔ site.extent axis = .share := by
  rw [Site.extent_eq_share_iff, Site.isMainAxis_iff]
  unfold expandedAxis?
  cases site.parentFlow.bind Flow.mainAxis with
  | none => simp
  | some main =>
    simp only [Option.bind_eq_bind, Option.bind_some, Option.some.injEq]
    cases hs : site.sizing main <;> simp <;> grind

theorem isAbsolute_of_share {axis : Axis} (h : site.extent axis = .share) :
    site.isAbsolute = false := by
  have hmain := Site.isMainAxis_iff.mp (Site.extent_eq_share_iff.mp h).1
  unfold Site.isAbsolute
  cases hf : site.parentFlow with
  | none => rfl
  | some f =>
    rw [hf] at hmain
    cases f with
    | free => cases hmain
    | _ => rfl

theorem name?_placed {w : Expr} (h : w.name? ≠ some "Expanded") :
    (placed site w).name? = some "Expanded" ↔ ∃ axis, site.extent axis = .share := by
  have hshare : (expandedAxis? site).isSome = true ↔ ∃ axis, site.extent axis = .share := by
    simp only [Option.isSome_iff_exists, expandedAxis?_eq_some_iff]
  unfold placed
  simp only
  by_cases habs : site.isAbsolute = true
  · rw [if_pos habs, name?_wrap]
    constructor
    · simp
    · rintro ⟨axis, haxis⟩
      rw [isAbsolute_of_share haxis] at habs
      cases habs
  · rw [if_neg habs, ← hshare]
    by_cases hexp : (expandedAxis? site).isSome = true
    · simp [hexp, name?_wrap]
    · rw [if_neg hexp]
      simp [h, hexp]

theorem name?_wrapped {child : Option Expr} (h : ∀ w ∈ child, w.name? ≠ some "Expanded") :
    (wrapped site child).name? = some "Expanded" ↔ ∃ axis, site.extent axis = .share := by
  apply name?_placed
  apply name?_turned_faded
  apply name?_effects
  unfold clipped
  split
  · simp [name?_wrap]
  · exact name?_boxed h

end

/-! ## Boxes -/

def isExtent (p : Argument) : Bool := p.1 == "width" || p.1 == "height"

theorem filter_decoration (e : Element Float) : (decoration e).filter isExtent = [] := by
  unfold decoration
  split
  · rfl
  · rfl
  · simp only
    split <;> simp [isExtent]

theorem filter_insets (e : Element Float) : (insets e).filter isExtent = [] := by
  unfold insets
  cases e.kind.layout? with
  | none => rfl
  | some l =>
    simp only [Option.map_some, Option.getD_some]
    unfold edgeInsets
    split
    · rfl
    · split <;> simp [isExtent]

theorem filter_clipBehavior (e : Element Float) : (clipBehavior e).filter isExtent = [] := by
  unfold clipBehavior
  split <;> simp [isExtent]

section
variable {site : Site Float} {axis other : Axis}

theorem mem_dimension_iff {v : Expr} : (axis.extentName, v) ∈ dimension site other ↔
    other = axis ∧ site.extent axis ≠ .share ∧
      ((∃ l, site.sizing axis = .fixed l ∧ v = .length (site.element.drawnLength axis l)) ∨
        site.sizing axis = .fill ∧ v = .atom "double.infinity") := by
  have hname : other.extentName = axis.extentName ↔ other = axis := by
    cases other <;> cases axis <;> simp [Axis.extentName]
  unfold dimension
  -- a share is left to the outermost wrapper, so the box is silent about its axis
  by_cases hshare : site.extent other = .share
  · rw [if_pos (expandedAxis?_eq_some_iff.mpr hshare)]
    constructor
    · simp
    · rintro ⟨rfl, hne, _⟩
      exact absurd hshare hne
  · rw [if_neg (mt expandedAxis?_eq_some_iff.mp hshare)]
    constructor
    · intro h
      cases hs : site.sizing other with
      | fixed l =>
        simp only [hs, mem_singleton, Prod.mk.injEq] at h
        cases hname.mp h.1.symm
        exact ⟨rfl, hshare, .inl ⟨l, hs, h.2⟩⟩
      | hug => simp [hs] at h
      | fill =>
        simp only [hs, mem_singleton, Prod.mk.injEq] at h
        cases hname.mp h.1.symm
        exact ⟨rfl, hshare, .inr ⟨hs, h.2⟩⟩
    · rintro ⟨rfl, _, ⟨l, hs, rfl⟩ | ⟨hs, rfl⟩⟩ <;> simp [hs]

theorem filter_dimension : (dimension site axis).filter isExtent = dimension site axis := by
  apply filter_eq_self.mpr
  intro p hp
  have hlabel : p.1 = axis.extentName := by
    unfold dimension at hp
    split at hp
    · simp at hp
    · split at hp <;> simp at hp <;> rw [hp]
  cases axis <;> simp [isExtent, hlabel, Axis.extentName]

theorem filter_boxed {child : Option Expr}
    (h : ∀ w ∈ child, (core w).arguments.filter isExtent = []) :
    (core (boxed site child)).arguments.filter isExtent =
      dimension site .horizontal ++ dimension site .vertical := by
  have hown : (dimension site .horizontal ++ dimension site .vertical ++ insets site.element ++
      clipBehavior site.element ++ decoration site.element).filter isExtent =
      dimension site .horizontal ++ dimension site .vertical := by
    simp only [filter_append, filter_dimension, filter_insets, filter_clipBehavior,
      filter_decoration, append_nil]
  unfold boxed tall
  cases child with
  | none =>
    rw [core_of_not_isWrapper rfl]
    exact hown
  | some w =>
    simp only
    split
    · rename_i hempty
      rw [h w rfl, ← hown, isEmpty_iff.mp hempty]
      rfl
    · have hname : isWrapper (boxName site.element) = false := by
        unfold boxName
        split <;> rfl
      rw [core_of_not_isWrapper hname]
      simp only [Expr.arguments, filter_append, hown]
      simp [isExtent]

end

/-! ## Children of boxes -/

def IsSizeless (w : Expr) : Prop :=
  w.name? ≠ some "Expanded" ∧ (core w).arguments.filter isExtent = []

theorem isSizeless_call {tall : Bool} {name : String} {as : List Argument}
    (hname : isWrapper name = false) (has : as.filter isExtent = []) :
    IsSizeless (.call tall name as) := by
  constructor
  · simp only [Expr.name?, ne_eq, Option.some.injEq]
    rintro rfl
    cases hname
  · rw [core_of_not_isWrapper hname]
    exact has

theorem isSizeless_arranged (site : Site Float) (ws : List Expr) :
    IsSizeless (arranged site ws) := by
  have hstack : ∀ clips, IsSizeless (stack clips ws) := by
    intro clips
    apply isSizeless_call rfl
    cases clips <;> simp [isExtent]
  unfold arranged
  split
  · exact hstack _
  · rename_i l hl
    split
    · exact hstack _
    · rename_i main hmain
      have hjustify : (mainAxisAlignment l.distribution).filter isExtent = [] := by
        cases l.distribution <;> simp [mainAxisAlignment, isExtent]
      have hitems : (crossAxisAlignment main l.alignment).filter isExtent = [] := by
        cases main <;> cases l.alignment <;> simp [crossAxisAlignment, isExtent]
      apply isSizeless_call (by cases main <;> rfl)
      simp only [filter_append, hjustify, hitems]
      cases site.sizing main <;> simp [leastSize, isExtent]

theorem isSizeless_text (runs : List TextRun) (content : TextContent) :
    IsSizeless (text runs content) := by
  have halign : (textAlign content.alignHorizontal).filter isExtent = [] := by
    cases content.alignHorizontal <;> simp [textAlign, isExtent]
  unfold text
  split
  · exact isSizeless_call rfl (by simpa [isExtent] using halign)
  · exact isSizeless_call rfl (by simpa [isExtent, style] using halign)
  · exact isSizeless_call rfl (by simpa [isExtent] using halign)

theorem exists_wrapped (c : Context) (site : Site Float) (children : List (Branch Float)) :
    ∃ child, widget c (.node site children) = wrapped site child ∧
      ∀ w ∈ child, IsSizeless w := by
  unfold widget
  simp only
  split
  · exact ⟨_, rfl, by simp [isSizeless_arranged]⟩
  · exact ⟨_, rfl, by simp [isSizeless_arranged]⟩
  · exact ⟨_, rfl, by simp [isSizeless_text]⟩
  · have hplaceholder : IsSizeless (inline "const Placeholder" []) := isSizeless_call rfl rfl
    exact ⟨_, rfl, by simp [hplaceholder]⟩
  · exact ⟨none, rfl, by simp⟩

section
variable {site : Site Float} {child : Option Expr} {axis : Axis}

theorem isExpanded_wrapped_iff (h : ∀ w ∈ child, IsSizeless w) :
    site.isMainAxis axis = true ∧ (wrapped site child).name? = some "Expanded" ↔
      site.extent axis = .share := by
  rw [name?_wrapped fun w hw => (h w hw).1, Site.exists_share_iff]

/-- The box around a child names an axis unless a share of the room is taken there. -/
theorem mem_wrapped_iff (h : ∀ w ∈ child, IsSizeless w) {v : Expr} :
    (axis.extentName, v) ∈ (core (wrapped site child)).arguments ↔
      site.extent axis ≠ .share ∧
        ((∃ l, site.sizing axis = .fixed l ∧ v = .length (site.element.drawnLength axis l)) ∨
          site.sizing axis = .fill ∧ v = .atom "double.infinity") := by
  have hextent : isExtent (axis.extentName, v) = true := by cases axis <;> rfl
  have hfilter : (axis.extentName, v) ∈ (core (wrapped site child)).arguments ↔
      (axis.extentName, v) ∈ (core (wrapped site child)).arguments.filter isExtent := by
    simp [hextent]
  rw [hfilter, core_wrapped, filter_boxed fun w hw => (h w hw).2, mem_append,
    mem_dimension_iff, mem_dimension_iff, ← or_and_right]
  cases axis <;> simp

end

theorem says_iff (c : Context) (site : Site Float) (children : List (Branch Float)) (axis : Axis)
    (x : Extent) : Says (widget c (.node site children)) axis (site.isMainAxis axis) x ↔
      site.extent axis = x := by
  obtain ⟨child, hwidget, hchild⟩ := exists_wrapped c site children
  have hshare : site.isMainAxis axis = true ∧ (wrapped site child).name? = some "Expanded" ↔ _ :=
    isExpanded_wrapped_iff hchild
  have hmem : ∀ v, (axis.extentName, v) ∈ (core (wrapped site child)).arguments ↔ _ :=
    fun _ => mem_wrapped_iff hchild
  rw [hwidget]
  cases x with
  | fixed =>
    rw [Says]
    simp only [hmem]
    rw [Site.extent_eq_fixed_iff]
    constructor
    · rintro ⟨l, _, ⟨l', hs, _⟩ | ⟨_, hl⟩⟩
      · exact ⟨l', hs⟩
      · cases hl
    · rintro ⟨l, hs⟩
      exact ⟨_, by simp [Site.extent_eq_share_iff, hs], .inl ⟨l, hs, rfl⟩⟩
  | hug =>
    rw [Says, hshare]
    simp only [hmem]
    rw [Site.extent_eq_hug_iff]
    constructor
    · rintro ⟨hnone, hne⟩
      cases hs : site.sizing axis with
      | fixed l => exact absurd ⟨hne, .inl ⟨l, hs, rfl⟩⟩ (hnone _)
      | hug => rfl
      | fill => exact absurd ⟨hne, .inr ⟨hs, rfl⟩⟩ (hnone _)
    · intro hs
      simp [Site.extent_eq_share_iff, hs]
  | share =>
    rw [Says, ← and_assoc, hshare]
    simp only [hmem]
    constructor
    · exact And.left
    · intro h
      exact ⟨h, by simp [h]⟩
  | stretch =>
    rw [Says, hmem, Site.extent_eq_stretch_iff]
    constructor
    · rintro ⟨hcross, _, ⟨l, _, hv⟩ | ⟨hs, _⟩⟩
      · cases hv
      · exact ⟨hcross, hs⟩
    · rintro ⟨hcross, hs⟩
      exact ⟨hcross, by simp [Site.extent_eq_share_iff, hcross], .inr ⟨hs, rfl⟩⟩

end Flutter

/-! ## All four formats -/

/-- **What is written of an axis is its sizing, in every format.** -/
theorem normalize_says_tfae (o : NormalizeOptions Float) (c : Context)
    (selection : List (HostNode Float)) {a : Arena Float}
    (h : (normalizeInto o c selection).1 = .ok a) (d : Context) :
    ∀ i, a.Reachable i → ∀ axis, ∃ s site r, a.get? i = some s ∧ a.site s = .ok site ∧
      a.axisSizing i axis = .ok r ∧ ∀ children,
        (Html.styling.document d (.node site children)).attributes =
          [Markup.Styling.name site.element,
            Html.styling.style ((Html.written d site).map Declaration.text)] ∧
        (Tailwind.styling.document d (.node site children)).attributes =
          [Markup.Styling.name site.element, Tailwind.styling.style (Tailwind.written d site)] ∧
        ∀ x, [r.extent (site.isMainAxis axis) = x,
          Html.words.Says (Html.written d site) axis (site.isMainAxis axis) x,
          Tailwind.words.Says (Tailwind.written d site) axis (site.isMainAxis axis) x,
          SwiftUi.Says (SwiftUi.view d (.node site children)).modifiers axis
            (site.isMainAxis axis) x,
          Flutter.Says (Flutter.widget d (.node site children)) axis
            (site.isMainAxis axis) x].TFAE := by
  obtain ⟨_, rfl⟩ := normalizeSources_eq_ok_iff.mp h
  intro i hi axis
  obtain ⟨s, parent, hs, hp, _⟩ := Arena.exists_settled o _ hi
  refine ⟨s, _, _, hs, Arena.site_eq hp, Arena.axisSizing_eq hs hp axis, fun children => ?_⟩
  refine ⟨?_, ?_, fun x => ?_⟩
  · rw [Markup.Styling.attributes_document, ← Html.pieces_eq]
    rfl
  · rw [Markup.Styling.attributes_document]
    rfl
  · tfae_have 1 ↔ 2 := (Html.says_iff d _ axis x).symm
    tfae_have 1 ↔ 3 := (Tailwind.says_iff d _ axis x).symm
    tfae_have 1 ↔ 4 := (SwiftUi.says_iff d _ children axis x).symm
    tfae_have 1 ↔ 5 := (Flutter.says_iff d _ children axis x).symm
    tfae_finish

theorem toolbar_says_share : ∃ a : Arena Float,
    (normalizeInto default .empty toolbar).1 = .ok a ∧ a.Reachable 2 ∧
      ∃ s site, a.get? 2 = some s ∧ a.site s = .ok site ∧
        a.axisSizing 2 .horizontal = .ok .fill ∧
        (⟨"flex", "1 1 0"⟩ : Declaration) ∈ Html.written .empty site ∧
        "flex-1" ∈ Tailwind.written .empty site ∧
        (Flutter.widget .empty (.node site [])).name? = some "Expanded" := by
  have hholds := Arena.restructure_holds default (HostNode.toSources toolbar)
  have hrow := hholds.get? (i := 0) mem_cons_self
  have hcolumn := hholds.get? (i := 2) (mem_cons_of_mem _ mem_cons_self)
  have hreach := Arena.Reachable.child (.root (by exact mem_cons_self)) hrow mem_cons_self
  have hfill := Arena.axisSizing_eq hcolumn (Arena.parentFlow_some hrow) .horizontal
  obtain ⟨s, site, r, hs, hsite, hr, hwords⟩ :=
    normalize_says_tfae default .empty toolbar rfl .empty 2 hreach .horizontal
  cases hs.symm.trans hcolumn
  cases hr.symm.trans hfill
  cases hsite.symm.trans (Arena.site_eq (Arena.parentFlow_some hrow))
  have hall := (hwords []).2.2 .share
  have hhtml := (hall.out 0 1).mp rfl
  have htailwind := (hall.out 0 2).mp rfl
  have hflutter := (hall.out 0 4).mp rfl
  exact ⟨_, rfl, hreach, _, _, hcolumn, hsite, hfill, hhtml.2, htailwind.2, hflutter.2.1⟩

end Artboard
