import Artboard.Proofs.Boxes

/-!
# Fills

Of the paints of an element a format takes one: the others could be left out without a change to
what is written. Three of the formats take the paint on top. The classes of the fourth look for a
linear gradient first, wherever it lies.
-/

open List

namespace Artboard

/-! ## Other fills -/

/-- Texts, lines and pictures are not filled with their paints. -/
def Kind.isFilled {α : Type} : Kind α → Bool
  | text _ | line | boolean => false
  | _ => true

theorem Kind.content?_of_isFilled {α : Type} {k : Kind α} (h : k.isFilled = true) :
    k.content? = none := by
  cases k with
  | text content => cases h
  | _ => rfl

theorem Element.isText_of_isFilled {e : Element Float} (h : e.kind.isFilled = true) :
    e.isText = false := by
  rw [Element.isText, Kind.content?_of_isFilled h]
  rfl

def Element.withFills (e : Element Float) (ps : List Paint) : Element Float :=
  { e with props := { e.props with fills := ps } }

def Site.withFills (site : Site Float) (ps : List Paint) : Site Float :=
  { site with element := site.element.withFills ps }

namespace Branch

def withFills (ps : List Paint) : Branch Float → Branch Float
  | node site children => .node (site.withFills ps) children

end Branch

/-- What is written for a branch has one paint in it, if any, and would be the same without the
others. -/
structure Takes {β : Type} (write : Branch Float → β) (shows : Paint → β → Prop)
    (b : Branch Float) (taken : Option Paint) : Prop where
  alone : write (b.withFills taken.toList) = write b
  shown : ∀ p ∈ taken, shows p (write b)

theorem getLast?_toList {β : Type} (x : Option β) : x.toList.getLast? = x := by
  cases x <;> rfl

section
variable {c : Context} {site : Site Float} {children : List (Branch Float)}

/-! ## Documents -/

namespace Markup.Styling

variable {s : Styling}

theorem document_withFills {ps : List Paint} (hkind : site.element.kind.isFilled = true)
    (hnode : s.node (site.withFills ps) = s.node site) :
    s.document c (.node (site.withFills ps) children) = s.document c (.node site children) := by
  have hname : name (site.withFills ps).element = name site.element := rfl
  have hsame : (site.withFills ps).element.kind = site.element.kind := rfl
  unfold document
  -- a text would have its runs looked up; no other tag depends on more than these
  simp only [hsame, hname, hnode]
  cases hk : site.element.kind with
  | text content => simp [hk, Kind.isFilled] at hkind
  | _ => rfl

theorem mem_attributes_document (hkind : site.element.kind.isFilled = true) :
    s.style (s.node site) ∈ (s.document c (.node site children)).attributes := by
  rw [attributes_document, heading,
    pieces_of_content?_eq_none s c (Kind.content?_of_isFilled hkind)]
  simp

end Markup.Styling

namespace Html

def Shows (p : Paint) (m : Markup) : Prop :=
  ∃ ds : List Declaration, styling.style (ds.map Declaration.text) ∈ m.attributes ∧
    background p ∈ ds

theorem declarations_withFills {ps : List Paint}
    (h : ps.getLast? = site.element.props.fills.getLast?) :
    declarations (site.withFills ps) = declarations site := by
  have hbackgrounds : backgrounds (site.withFills ps).element = backgrounds site.element := by
    unfold backgrounds
    change (if site.element.isText then _ else (ps.getLast?.map background).toList) = _
    rw [h]
  unfold declarations appearance
  rw [hbackgrounds]
  rfl

theorem takes (hkind : site.element.kind.isFilled = true) :
    Takes (styling.document c) Shows (.node site children)
      site.element.props.fills.getLast? where
  alone := by
    apply Markup.Styling.document_withFills hkind
    exact congrArg (map Declaration.text) (declarations_withFills (getLast?_toList _))
  shown p hp := by
    have htext := Element.isText_of_isFilled hkind
    refine ⟨declarations site, Markup.Styling.mem_attributes_document hkind, ?_⟩
    have hmem : background p ∈ backgrounds site.element := by
      rw [Option.mem_def] at hp
      simp [backgrounds, htext, hp]
    unfold declarations appearance
    simp [hmem]

end Html

namespace Tailwind

def fill : Paint → List String
  | .linear g => gradient g
  | p => background p

def Shows (p : Paint) (m : Markup) : Prop :=
  ∃ ks : List String, styling.style ks ∈ m.attributes ∧ fill p ⊆ ks

/-- The first linear gradient goes before the paint on top. -/
def taken (ps : List Paint) : Option Paint := (ps.find? fun p => p.linear?.isSome).or ps.getLast?

theorem linear?_eq_some_iff {p : Paint} {g : Gradient} : p.linear? = some g ↔ p = .linear g := by
  cases p <;> simp [Paint.linear?]

theorem taken_toList (p : Option Paint) : taken p.toList = p := by
  cases p with
  | none => rfl
  | some p => cases h : p.linear?.isSome <;> simp [taken, h]

theorem findSome?_linear? (ps : List Paint) :
    ps.findSome? Paint.linear? = (ps.find? fun p => p.linear?.isSome).bind Paint.linear? := by
  induction ps with
  | nil => rfl
  | cons p ps ih =>
    cases hp : p.linear? with
    | none => simp [hp, ih]
    | some g => simp [hp]

theorem backgrounds_eq {e : Element Float} (h : e.isText = false) :
    backgrounds e = ((taken e.props.fills).map fill).getD [] := by
  unfold backgrounds taken
  rw [if_neg (by simp [h]), findSome?_linear?]
  cases hfind : e.props.fills.find? (fun p => p.linear?.isSome) with
  | none =>
    rw [Option.bind_none, Option.none_or]
    cases hlast : e.props.fills.getLast? with
    | none => rfl
    | some p =>
      have hp := find?_eq_none.mp hfind p (mem_of_getLast? hlast)
      cases p with
      | linear g => simp [Paint.linear?] at hp
      | _ => rfl
  | some p =>
    have hlinear := find?_some hfind
    obtain ⟨g, hg⟩ := Option.isSome_iff_exists.mp hlinear
    cases linear?_eq_some_iff.mp hg
    rfl

theorem classes_withFills {ps : List Paint} (hkind : site.element.kind.isFilled = true)
    (h : taken ps = taken site.element.props.fills) :
    classes (site.withFills ps) = classes site := by
  have htext := Element.isText_of_isFilled hkind
  have hbackgrounds : backgrounds (site.withFills ps).element = backgrounds site.element := by
    rw [backgrounds_eq htext, backgrounds_eq (by exact htext), ← h]
    rfl
  unfold classes appearance
  rw [hbackgrounds]
  rfl

theorem takes (hkind : site.element.kind.isFilled = true) :
    Takes (styling.document c) Shows (.node site children) (taken site.element.props.fills) where
  alone := by
    apply Markup.Styling.document_withFills hkind
    exact classes_withFills hkind (taken_toList _)
  shown p hp := by
    have htext := Element.isText_of_isFilled hkind
    refine ⟨classes site, Markup.Styling.mem_attributes_document hkind, ?_⟩
    have heq : backgrounds site.element = fill p := by
      rw [backgrounds_eq htext, hp]
      rfl
    intro k hk
    unfold classes appearance
    simp [heq, hk]

theorem taken_eq_getLast?_iff {ps : List Paint} :
    taken ps = ps.getLast? ↔
      ∀ p, ps.find? (fun p => p.linear?.isSome) = some p → ps.getLast? = some p := by
  unfold taken
  cases ps.find? fun p => p.linear?.isSome with
  | none => simp
  | some p => simp [eq_comm]

end Tailwind

/-! ## Views -/

namespace SwiftUi

def Shows (e : Element Float) (p : Paint) (v : View) : Prop :=
  ∃ m ∈ v.modifiers, (m.name = "fill" ∨ m.name = "background") ∧ m.arguments = [("", paint e p)]

theorem fill?_withFills {ps : List Paint} (h : ps.getLast? = site.element.props.fills.getLast?) :
    fill? (site.withFills ps).element = fill? site.element := by
  unfold fill?
  change ps.getLast?.map _ = _
  rw [h]
  congr 1

theorem modifiers_withFills {ps : List Paint}
    (h : ps.getLast? = site.element.props.fills.getLast?) :
    modifiers (site.withFills ps) c = modifiers site c := by
  have hfill := fill?_withFills h
  have hdrawing : drawing c (site.withFills ps).element = drawing c site.element := by
    unfold drawing
    rw [hfill]
    rfl
  have hbackdrop : backdrop (site.withFills ps).element = backdrop site.element := by
    unfold backdrop
    rw [hfill]
    rfl
  unfold modifiers
  simp only [hdrawing, hbackdrop]
  rfl

theorem view_withFills {ps : List Paint} (h : ps.getLast? = site.element.props.fills.getLast?) :
    view c (.node (site.withFills ps) children) = view c (.node site children) := by
  unfold view
  simp only [modifiers_withFills h]
  rfl

theorem takes (hkind : site.element.kind.isFilled = true) :
    Takes (view c) (Shows site.element) (.node site children)
      site.element.props.fills.getLast? where
  alone := view_withFills (getLast?_toList _)
  shown p hp := by
    have hfill : fill? site.element = some (paint site.element p) := by
      unfold fill?
      rw [hp]
      rfl
    unfold Shows
    rw [modifiers_view]
    unfold modifiers
    cases hk : site.element.kind with
    | text content => simp [hk, Kind.isFilled] at hkind
    | line => simp [hk, Kind.isFilled] at hkind
    | boolean => simp [hk, Kind.isFilled] at hkind
    | container l =>
      refine ⟨⟨"background", [("", paint site.element p)]⟩, ?_, .inr rfl, rfl⟩
      simp [backdrop, hk, hfill]
    | group =>
      refine ⟨⟨"background", [("", paint site.element p)]⟩, ?_, .inr rfl, rfl⟩
      simp [backdrop, hk, hfill]
    | _ =>
      refine ⟨⟨"fill", [("", paint site.element p)]⟩, ?_, .inl rfl, rfl⟩
      simp [drawing, hk, hfill]

end SwiftUi

/-! ## Widgets -/

namespace Flutter

def Shows (p : Paint) (w : Expr) : Prop :=
  ∃ d, ("decoration", d) ∈ (core w).arguments ∧ paint p ⊆ d.arguments

theorem decoration_withFills {ps : List Paint}
    (h : ps.getLast? = site.element.props.fills.getLast?) :
    decoration (site.withFills ps).element = decoration site.element := by
  have hbackground : background (site.withFills ps).element = background site.element := by
    have hkind : (site.withFills ps).element.kind = site.element.kind := rfl
    have hfills : (site.withFills ps).element.props.fills = ps := rfl
    have hstrokes : (site.withFills ps).element.props.strokes = site.element.props.strokes := rfl
    unfold background
    rw [hkind, hfills, hstrokes, h]
  unfold decoration
  rw [hbackground]
  rfl

theorem wrapped_withFills {ps : List Paint} (h : ps.getLast? = site.element.props.fills.getLast?)
    (child : Option Expr) : wrapped (site.withFills ps) child = wrapped site child := by
  have hdecoration := decoration_withFills h
  have hclips : clipBehavior (site.withFills ps).element = clipBehavior site.element := by
    unfold clipBehavior
    rw [hdecoration]
    rfl
  have hname : boxName (site.withFills ps).element = boxName site.element := by
    unfold boxName
    rw [hdecoration]
    rfl
  have hboxed : boxed (site.withFills ps) child = boxed site child := by
    unfold boxed
    simp only [hdecoration, hclips, hname]
    rfl
  unfold wrapped clipped
  simp only [hboxed, hdecoration]
  rfl

theorem widget_withFills {ps : List Paint} (h : ps.getLast? = site.element.props.fills.getLast?) :
    widget c (.node (site.withFills ps) children) = widget c (.node site children) := by
  unfold widget
  simp only [wrapped_withFills h]
  rfl

theorem decoration_of_isFilled {e : Element Float} {p : Paint} (hkind : e.kind.isFilled = true)
    (hp : e.props.fills.getLast? = some p) : decoration e =
      [("decoration", tall "BoxDecoration" (paint p ++ border e ++ radius e ++ shadows e))] := by
  have hbackground : background e = paint p := by
    unfold background
    rw [hp]
    cases hk : e.kind with
    | line => simp [hk, Kind.isFilled] at hkind
    | _ => rfl
  have hpaint : paint p ≠ [] := by cases p <;> simp [paint, gradient]
  unfold decoration
  rw [hbackground]
  cases hk : e.kind with
  | text content => simp [hk, Kind.isFilled] at hkind
  | boolean => simp [hk, Kind.isFilled] at hkind
  | _ => simp [hpaint]

theorem mem_arguments_boxed {child : Option Expr} {x : Argument}
    (h : x ∈ decoration site.element) : x ∈ (core (boxed site child)).arguments := by
  unfold boxed tall
  cases child with
  | none =>
    rw [core_of_not_isWrapper rfl]
    simp [Expr.arguments, h]
  | some w =>
    have hname : isWrapper (boxName site.element) = false := by
      unfold boxName
      split <;> rfl
    simp only
    split
    · rename_i hempty
      simp only [List.isEmpty_iff, append_eq_nil_iff] at hempty
      rw [hempty.2] at h
      cases h
    · rw [core_of_not_isWrapper hname]
      simp [Expr.arguments, h]

theorem takes (hkind : site.element.kind.isFilled = true) :
    Takes (widget c) Shows (.node site children) site.element.props.fills.getLast? where
  alone := widget_withFills (getLast?_toList _)
  shown p hp := by
    obtain ⟨child, hwidget, _⟩ := exists_wrapped c site children
    refine ⟨tall "BoxDecoration" (paint p ++ border site.element ++ radius site.element ++
      shadows site.element), ?_, ?_⟩
    · rw [hwidget, core_wrapped]
      apply mem_arguments_boxed
      rw [decoration_of_isFilled hkind hp, mem_singleton]
    · intro x hx
      simp [tall, Expr.arguments, hx]

end Flutter

end

/-! ## All four formats -/

/-- **Three formats paint with the paint on top.** The fourth does so where no linear gradient lies
below another paint. -/
theorem normalize_takes (o : NormalizeOptions Float) (c : Context)
    (selection : List (HostNode Float)) {a : Arena Float}
    (h : (normalizeInto o c selection).1 = .ok a) (d : Context) :
    ∀ i, a.Reachable i → ∃ s site, a.get? i = some s ∧ a.site s = .ok site ∧
      (site.element.kind.isFilled = true → ∀ children,
        Takes (Html.styling.document d) Html.Shows (.node site children)
          site.element.props.fills.getLast? ∧
        Takes (SwiftUi.view d) (SwiftUi.Shows site.element) (.node site children)
          site.element.props.fills.getLast? ∧
        Takes (Flutter.widget d) Flutter.Shows (.node site children)
          site.element.props.fills.getLast? ∧
        Takes (Tailwind.styling.document d) Tailwind.Shows (.node site children)
          (Tailwind.taken site.element.props.fills) ∧
        (Tailwind.taken site.element.props.fills = site.element.props.fills.getLast? ↔
          ∀ p, site.element.props.fills.find? (fun p => p.linear?.isSome) = some p →
            site.element.props.fills.getLast? = some p)) := by
  obtain ⟨_, rfl⟩ := normalizeSources_eq_ok_iff.mp h
  intro i hi
  obtain ⟨s, parent, hs, hp, _⟩ := Arena.exists_settled o _ hi
  refine ⟨s, _, hs, Arena.site_eq hp, ?_⟩
  intro hkind children
  refine ⟨Html.takes hkind, SwiftUi.takes hkind, Flutter.takes hkind, Tailwind.takes hkind, ?_⟩
  exact Tailwind.taken_eq_getLast?_iff

def dusk : Gradient where
  stops := [⟨0, 1, 0, 0, 1⟩, ⟨1, 0, 0, 1, 1⟩]
  transform := ⟨1, 0, 0, 1, 0, 0⟩
  opacity := 1

/-- A rectangle with a gradient that cannot be seen below a solid color. -/
def tile : List (HostNode Float) :=
  [.node { HostProps.plain "1" "tile" .rectangle ⟨0, 0, 10, 10, 0⟩ with
    fills := .known [.linear ⟨dusk.stops, dusk.transform, dusk.opacity, true⟩,
      .solid ⟨0, 1, 0, 1⟩ 1 true] } []]

theorem tile_takes : ∃ a : Arena Float, (normalizeInto default .empty tile).1 = .ok a ∧
    a.Reachable 0 ∧ ∃ s site, a.get? 0 = some s ∧ a.site s = .ok site ∧
      Takes (Html.styling.document .empty) Html.Shows (.node site [])
        (some (.solid ⟨0, 1, 0, 1⟩ 1)) ∧
      Takes (Tailwind.styling.document .empty) Tailwind.Shows (.node site [])
        (some (.linear dusk)) := by
  have hholds := Arena.restructure_holds default (HostNode.toSources tile)
  have hreach : (restructure default (HostNode.toSources tile)).Reachable 0 :=
    .root (by exact mem_cons_self)
  have hslot := hholds.get? (i := 0) mem_cons_self
  obtain ⟨s, site, hs, hsite, htakes⟩ := normalize_takes default .empty tile rfl .empty 0 hreach
  cases hs.symm.trans hslot
  cases hsite.symm.trans (Arena.site_eq rfl)
  obtain ⟨hhtml, _, _, htailwind, _⟩ := htakes rfl []
  exact ⟨_, rfl, hreach, _, _, hslot, hsite, hhtml, htailwind⟩

end Artboard
