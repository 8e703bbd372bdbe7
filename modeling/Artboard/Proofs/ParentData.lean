import Artboard.Proofs.Boxes
import Artboard.Proofs.WidgetWords

/-!
# Widgets that a parent has to see

Some widgets only mean something to the parent that lists them: those that are placed in a stack,
and those that take a share of a row or a column. Which of them a branch becomes is told by the flow
of its parent, and so is what the parent becomes; so each is listed where it belongs.
-/

open List

namespace Artboard

/-! ## Spots of expressions -/

inductive Spot
  | whole
  | argument (call label : String)
  | item (call label : String)
  | part
  deriving DecidableEq

def Spot.items : Spot → Spot
  | argument call label => item call label
  | _ => part

namespace Expr

/-- What stands in an expression that stands at a spot, and where. -/
inductive Stands (s : Spot) (e : Expr) : Spot → Expr → Prop
  | self : Stands s e s e
  | argument {t : Spot} {tall : Bool} {name : String} {as : List Argument} {x : Argument}
      (h : Stands s e t (.call tall name as)) (hx : x ∈ as) : Stands s e (.argument name x.1) x.2
  | item {t : Spot} {tall : Bool} {items : List Expr} {x : Expr}
      (h : Stands s e t (.list tall items)) (hx : x ∈ items) : Stands s e t.items x
  | receiver {t : Spot} {r : Expr} {name : String} {as : List Argument}
      (h : Stands s e t (.method r name as)) : Stands s e .part r
  | methodArgument {t : Spot} {r : Expr} {name : String} {as : List Argument} {x : Argument}
      (h : Stands s e t (.method r name as)) (hx : x ∈ as) : Stands s e .part x.2
  | term {t : Spot} {terms : List Expr} {x : Expr} (h : Stands s e t (.sum terms))
      (hx : x ∈ terms) : Stands s e .part x

section
variable (P : Spot → Expr → Prop)

mutual

def Everywhere (s : Spot) : Expr → Prop
  | atom code => P s (atom code)
  | literal text => P s (literal text)
  | number places x => P s (number places x)
  | call tall name as =>
    P s (call tall name as) ∧ EverywhereInArguments (Spot.argument name) as
  | list tall items => P s (list tall items) ∧ EverywhereInItems s.items items
  | method r name as =>
    P s (method r name as) ∧ Everywhere .part r ∧ EverywhereInArguments (fun _ => .part) as
  | sum terms => P s (sum terms) ∧ EverywhereInItems .part terms

def EverywhereInArguments (spot : String → Spot) : List Argument → Prop
  | [] => True
  | (label, e) :: rest => Everywhere (spot label) e ∧ EverywhereInArguments spot rest

def EverywhereInItems (s : Spot) : List Expr → Prop
  | [] => True
  | e :: rest => Everywhere s e ∧ EverywhereInItems s rest

end

end

section
variable {P : Spot → Expr → Prop}

theorem everywhereInArguments_iff {spot : String → Spot} : ∀ {as : List Argument},
    EverywhereInArguments P spot as ↔ ∀ x ∈ as, Everywhere P (spot x.1) x.2
  | [] => by simp [EverywhereInArguments]
  | x :: as => by rw [EverywhereInArguments, everywhereInArguments_iff, forall_mem_cons]

theorem everywhereInItems_iff {s : Spot} : ∀ {es : List Expr},
    EverywhereInItems P s es ↔ ∀ e ∈ es, Everywhere P s e
  | [] => by simp [EverywhereInItems]
  | e :: es => by rw [EverywhereInItems, everywhereInItems_iff, forall_mem_cons]

theorem Everywhere.self {s : Spot} {e : Expr} (h : Everywhere P s e) : P s e := by
  cases e with
  | atom code => exact h
  | literal text => exact h
  | number places x => exact h
  | call tall name as => exact h.1
  | list tall items => exact h.1
  | method r name as => exact h.1
  | sum terms => exact h.1

theorem Everywhere.of_stands {s t : Spot} {e x : Expr} (h : Everywhere P s e)
    (hx : Stands s e t x) : Everywhere P t x := by
  induction hx with
  | self => exact h
  | argument _ hx ih => exact everywhereInArguments_iff.mp ih.2 _ hx
  | item _ hx ih => exact everywhereInItems_iff.mp ih.2 _ hx
  | receiver _ ih => exact ih.2.1
  | methodArgument _ hx ih => exact everywhereInArguments_iff.mp ih.2.2 _ hx
  | term _ hx ih => exact everywhereInItems_iff.mp ih.2 _ hx

end

end Expr

/-! ## Branches under their parents -/

namespace Branch

variable {α : Type}

mutual

def IsUnder (parent : Option Flow) : Branch α → Prop
  | .node site children => site.parentFlow = parent ∧ AreUnder (some site.element.flow) children

def AreUnder (parent : Option Flow) : List (Branch α) → Prop
  | [] => True
  | b :: rest => IsUnder parent b ∧ AreUnder parent rest

end

end Branch

namespace Scene

variable {α : Type}

mutual

theorem isUnder_branch (parent : Option Flow) : ∀ s : Scene α, (s.branch parent).IsUnder parent
  | node i e cs => by
    rw [branch, Branch.IsUnder]
    refine ⟨rfl, ?_⟩
    by_cases h : e.kind.isParent = true
    · rw [if_pos h]
      exact areUnder_branches (some e.flow) cs
    · rw [if_neg h]
      trivial

theorem areUnder_branches (parent : Option Flow) : ∀ ss : List (Scene α),
    Branch.AreUnder parent (branches parent ss)
  | [] => trivial
  | s :: ss => ⟨isUnder_branch parent s, areUnder_branches parent ss⟩

end

end Scene

namespace Flutter

open Artboard.Expr

/-! ## Spots of widgets -/

/-- Widgets that a parent has to see are listed by such a parent, and no other widgets are listed by
a stack. What takes a share of a parent's main axis has no length of its own there. -/
structure Abides (s : Spot) (e : Expr) : Prop where
  positioned_iff : e.name? = some "Positioned" ↔ s = .item "Stack" "children"
  expanded : e.name? = some "Expanded" → ∃ main, s = .item (flowName main) "children" ∧
    ∀ v, (main.extentName, v) ∉ (core e).arguments

def childSpot (f : Flow) : Spot :=
  match f.mainAxis with
  | none => .item "Stack" "children"
  | some main => .item (flowName main) "children"

def IsOrdinary (s : Spot) : Prop := s ∉ [Spot.item "Stack" "children", .argument "Stack" "children"]

instance (s : Spot) : Decidable (IsOrdinary s) := inferInstanceAs (Decidable (s ∉ _))

def Fits (s : Spot) : Option Flow → Prop
  | none => IsOrdinary s
  | some f => s = childSpot f

theorem isOrdinary_argument {name label : String} (h : name ≠ "Stack") :
    IsOrdinary (.argument name label) := by
  simp [IsOrdinary, h]

theorem IsOrdinary.items {s : Spot} (h : IsOrdinary s) : IsOrdinary s.items := by
  cases s <;> simp_all [IsOrdinary, Spot.items]

theorem isOrdinary_childSpot {f : Flow} {main : Axis} (h : f.mainAxis = some main) :
    IsOrdinary (childSpot f) := by
  unfold childSpot
  rw [h]
  cases main <;> decide

theorem abides_of_name? {s : Spot} {e : Expr} (hs : s ≠ .item "Stack" "children")
    (hpositioned : e.name? ≠ some "Positioned") (hexpanded : e.name? ≠ some "Expanded") :
    Abides s e :=
  ⟨⟨fun h => absurd h hpositioned, fun h => absurd h hs⟩, fun h => absurd h hexpanded⟩

theorem abides_of_name?_eq_none {s : Spot} {e : Expr} (hs : s ≠ .item "Stack" "children")
    (h : e.name? = none) : Abides s e :=
  abides_of_name? hs (by simp [h]) (by simp [h])

theorem IsOrdinary.ne {s : Spot} (h : IsOrdinary s) : s ≠ .item "Stack" "children" := by
  rintro rfl
  exact h mem_cons_self

/-! ## Details -/

section
variable {q : Prop}

theorem ne_of_names_details {name : String} (h : (details q).names name) :
    name ≠ "Stack" ∧ name ≠ "Positioned" ∧ name ≠ "Expanded" := by
  simp only [names_details, mem_cons, not_or] at h
  exact ⟨h.1, h.2.2.2.1, h.2.2.2.2.1⟩

theorem abides_call {name : String} (h : (details q).names name) {s : Spot} (hs : IsOrdinary s)
    (tall : Bool) (as : List Argument) : Abides s (.call tall name as) := by
  obtain ⟨_, hpositioned, hexpanded⟩ := ne_of_names_details h
  apply abides_of_name? hs.ne
  · simp [name?, hpositioned]
  · simp [name?, hexpanded]

mutual

theorem everywhere_of_keeps : ∀ {e : Expr} {s : Spot}, e.Keeps (details q) → IsOrdinary s →
    Everywhere Abides s e
  | .atom _, s, _, hs => abides_of_name?_eq_none hs.ne rfl
  | .literal _, s, _, hs => abides_of_name?_eq_none hs.ne rfl
  | .number _ _, s, _, hs => abides_of_name?_eq_none hs.ne rfl
  | .call _ _ _, s, h, hs =>
    ⟨abides_call h.1.1 hs _ _, everywhereInArguments_of_keeps h.2 fun _ =>
      isOrdinary_argument (ne_of_names_details h.1.1).1⟩
  | .list _ _, s, h, hs =>
    ⟨abides_of_name?_eq_none hs.ne rfl, everywhereInItems_of_keeps h hs.items⟩
  | .method _ _ _, s, h, hs =>
    ⟨abides_of_name?_eq_none hs.ne rfl, everywhere_of_keeps h.1.1 (by decide),
      everywhereInArguments_of_keeps h.2 fun _ => by decide⟩
  | .sum _, s, h, hs =>
    ⟨abides_of_name?_eq_none hs.ne rfl, everywhereInItems_of_keeps h (by decide)⟩

theorem everywhereInArguments_of_keeps : ∀ {as : List Argument} {spot : String → Spot},
    KeepsArguments (details q) as → (∀ label, IsOrdinary (spot label)) →
      EverywhereInArguments Abides spot as
  | [], _, _, _ => trivial
  | (_, _) :: _, _, h, hspot =>
    ⟨everywhere_of_keeps h.1.2 (hspot _), everywhereInArguments_of_keeps h.2 hspot⟩

theorem everywhereInItems_of_keeps : ∀ {es : List Expr} {s : Spot}, KeepsAll (details q) es →
    IsOrdinary s → EverywhereInItems Abides s es
  | [], _, _, _ => trivial
  | _ :: _, _, h, hs => ⟨everywhere_of_keeps h.1 hs, everywhereInItems_of_keeps h.2 hs⟩

end

end

/-! ## Widgets -/

theorem everywhere_call {name label : String} {as : List Argument} {x : Expr} {s : Spot}
    (hhere : Abides s (tall name (as ++ [(label, x)])))
    (has : EverywhereInArguments Abides (Spot.argument name) as)
    (hx : Everywhere Abides (.argument name label) x) :
    Everywhere Abides s (tall name (as ++ [(label, x)])) := by
  refine ⟨hhere, everywhereInArguments_iff.mpr (forall_mem_append.mpr ⟨?_, ?_⟩)⟩
  · exact everywhereInArguments_iff.mp has
  · rw [forall_mem_singleton]
    exact hx

theorem everywhere_wrap {name : String} (hname : name ≠ "Stack") {as : List Argument}
    (has : KeepsArguments (details False) as) {w : Expr} {s : Spot}
    (hhere : Abides s (wrap name as w)) (hw : ∀ t, IsOrdinary t → Everywhere Abides t w) :
    Everywhere Abides s (wrap name as w) := by
  have hspot : ∀ label, IsOrdinary (.argument name label) := fun _ => isOrdinary_argument hname
  exact everywhere_call hhere (everywhereInArguments_of_keeps has hspot) (hw _ (hspot "child"))

def IsInner (w : Expr) : Prop := ∀ s, IsOrdinary s → Everywhere Abides s w

theorem isInner_of_keeps {q : Prop} {w : Expr} (h : w.Keeps (details q)) : IsInner w :=
  fun _ hs => everywhere_of_keeps h hs

theorem isInner_wrap {name : String} {as : List Argument} {w : Expr}
    (has : (tall name as).Keeps (details False)) (hw : IsInner w) : IsInner (wrap name as w) :=
  fun _ hs => everywhere_wrap (ne_of_names_details has.1.1).1 has.2 (abides_call has.1.1 hs _ _) hw

section
variable (site : Site Float) {ws : List Expr}

theorem isInner_dressed_some {w : Expr} (hw : IsInner w) : IsInner (dressed site (some w)) := by
  apply dressed_induction (P := IsInner) site isInner_wrap
  exact boxed_induction (P := IsInner) site isInner_wrap hw

theorem isInner_dressed_none : IsInner (dressed site none) :=
  dressed_induction (P := IsInner) site isInner_wrap (isInner_of_keeps (keeps_boxed_none site))

theorem isInner_listing {name : String} (hpositioned : name ≠ "Positioned")
    (hexpanded : name ≠ "Expanded") {as : List Argument}
    (has : EverywhereInArguments Abides (Spot.argument name) as)
    (hws : EverywhereInItems Abides (.item name "children") ws) :
    IsInner (tall name (as ++ [("children", .list true ws)])) := by
  intro s hs
  refine everywhere_call (abides_of_name? hs.ne ?_ ?_) has ?_
  · simp [name?, tall, hpositioned]
  · simp [name?, tall, hexpanded]
  · exact ⟨abides_of_name?_eq_none (by simp) rfl, hws⟩

theorem isInner_stack (clips : Bool)
    (hws : EverywhereInItems Abides (.item "Stack" "children") ws) : IsInner (stack clips ws) := by
  apply isInner_listing (by decide) (by decide) _ hws
  cases clips with
  | true => trivial
  | false => exact ⟨abides_of_name?_eq_none (by simp) rfl, trivial⟩

theorem isInner_flow (main : Axis) (l : ContainerLayout Float) (sizing : AxisSizing Float)
    (hws : EverywhereInItems Abides (.item (flowName main) "children") ws) :
    IsInner (flow main l sizing ws) := by
  have hname : flowName main ≠ "Stack" := by cases main <;> decide
  have hitem : IsOrdinary (.item (flowName main) "children") := by cases main <;> decide
  have hspaced : EverywhereInItems Abides (.item (flowName main) "children")
      (spaced main l ws) := by
    unfold spaced
    split
    · rw [everywhereInItems_iff] at hws ⊢
      exact forall_mem_intersperse (everywhere_of_keeps (keeps_gap main _) hitem) hws
    · exact hws
  apply isInner_listing (by cases main <;> decide) (by cases main <;> decide) _ hspaced
  exact everywhereInArguments_of_keeps (keeps_flowArguments main l sizing)
    fun _ => isOrdinary_argument hname

theorem isInner_arranged (hws : EverywhereInItems Abides (childSpot site.element.flow) ws) :
    IsInner (arranged site ws) := by
  unfold arranged
  cases hl : site.element.kind.layout? with
  | none =>
    have hflow : site.element.flow = .free := by simp [Element.flow, Kind.flow, hl]
    rw [hflow] at hws
    exact isInner_stack false hws
  | some l =>
    have hflow : site.element.flow = l.flow := by simp [Element.flow, Kind.flow, hl]
    rw [hflow, childSpot] at hws
    simp only
    cases hmain : l.flow.mainAxis with
    | none =>
      rw [hmain] at hws
      exact isInner_stack l.clips hws
    | some main =>
      rw [hmain] at hws
      exact isInner_flow main l _ hws

end

/-! ## Parents and children -/

theorem isOrdinary_of_fits {site : Site Float} (habsolute : ¬site.isAbsolute = true) {s : Spot}
    (hs : Fits s site.parentFlow) : IsOrdinary s := by
  cases hparent : site.parentFlow with
  | none =>
    rw [hparent] at hs
    exact hs
  | some f =>
    rw [hparent] at hs
    cases hmain : f.mainAxis with
    | none =>
      cases f with
      | free => exact absurd (by simp [Site.isAbsolute, hparent]) habsolute
      | row => cases hmain
      | column => cases hmain
    | some main =>
      cases hs
      exact isOrdinary_childSpot hmain

theorem everywhere_placed {site : Site Float} {w : Expr} (hw : IsInner w) {s : Spot}
    (hs : Fits s site.parentFlow) (hshare : ∀ main, site.extent main = .share →
      ∀ v, (main.extentName, v) ∉ (core (placed site w)).arguments) :
    Everywhere Abides s (placed site w) := by
  -- a child is positioned, expanded or left as it is, by what its parent does
  by_cases habsolute : site.isAbsolute = true
  · have hparent : site.parentFlow = some .free := by simpa [Site.isAbsolute] using habsolute
    rw [hparent] at hs
    have hplaced : placed site w = wrap "Positioned"
        [("left", .length site.element.props.geometry.x),
          ("top", .length site.element.props.geometry.y)] w := by simp [placed, habsolute]
    rw [hplaced]
    apply everywhere_wrap (by decide) (by simp +decide) _ hw
    exact ⟨⟨fun _ => hs, fun _ => rfl⟩, by simp [name?_wrap]⟩
  · cases hexpanded : expandedAxis? site with
    | none =>
      have hplaced : placed site w = w := by simp [placed, habsolute, hexpanded]
      rw [hplaced]
      exact hw s (isOrdinary_of_fits habsolute hs)
    | some main =>
      have hordinary := isOrdinary_of_fits habsolute hs
      have hextent := expandedAxis?_eq_some_iff.mp hexpanded
      have hmain := Site.isMainAxis_iff.mp (Site.extent_eq_share_iff.mp hextent).1
      obtain ⟨f, hparent, hf⟩ := Option.bind_eq_some_iff.mp hmain
      rw [hparent, Fits, childSpot, hf] at hs
      have hplaced : placed site w = wrap "Expanded" (flex site.element) w := by
        simp [placed, habsolute, hexpanded]
      have hsilent := hshare main hextent
      rw [hplaced] at hsilent ⊢
      apply everywhere_wrap (by decide) (keeps_flex _) _ hw
      exact ⟨⟨by simp [name?_wrap], fun h => absurd h hordinary.ne⟩, fun _ => ⟨main, hs, hsilent⟩⟩

mutual

theorem everywhere_widget (c : Context) : ∀ (b : Branch Float) {parent : Option Flow} {s : Spot},
    b.IsUnder parent → Fits s parent → Everywhere Abides s (widget c b)
  | .node site children, parent, s, ⟨hparent, hunder⟩, hs => by
    have hchildren := everywhere_widgets c children hunder (s := childSpot site.element.flow) rfl
    have harranged := isInner_arranged site hchildren
    have hshare : ∀ main, site.extent main = .share → ∀ v,
        (main.extentName, v) ∉ (core (widget c (.node site children))).arguments := by
      intro main hmain
      exact ((says_iff c site children main .share).mpr hmain).2.2
    have hfits : Fits s site.parentFlow := by rwa [hparent]
    -- each kind of element only differs in the child it puts into the box
    have hall : ∀ {child : Option Expr}, widget c (.node site children) = wrapped site child →
        IsInner (dressed site child) → Everywhere Abides s (widget c (.node site children)) := by
      intro child hwidget hinner
      rw [hwidget] at hshare ⊢
      exact everywhere_placed hinner hfits hshare
    cases hk : site.element.kind with
    | container l =>
      exact hall (by simp [widget, hk]) (isInner_dressed_some site harranged)
    | group => exact hall (by simp [widget, hk]) (isInner_dressed_some site harranged)
    | text content =>
      have htext := keeps_text (site.element.textRuns c) content
      exact hall (by simp [widget, hk]) (isInner_dressed_some site (isInner_of_keeps htext))
    | boolean =>
      have hplaceholder : (inline "const Placeholder" []).Keeps (details False) := by
        simp +decide [inline]
      exact hall (by simp [widget, hk]) (isInner_dressed_some site (isInner_of_keeps hplaceholder))
    | _ => exact hall (by simp [widget, hk]) (isInner_dressed_none site)

theorem everywhere_widgets (c : Context) : ∀ (bs : List (Branch Float)) {parent : Option Flow}
    {s : Spot}, Branch.AreUnder parent bs → Fits s parent →
      EverywhereInItems Abides s (widgets c bs)
  | [], _, _, _, _ => trivial
  | b :: bs, _, _, ⟨hb, hbs⟩, hs => ⟨everywhere_widget c b hb hs, everywhere_widgets c bs hbs hs⟩

end

theorem everywhere_single (c : Context) {bs : List (Branch Float)} (h : Branch.AreUnder none bs) :
    Everywhere Abides .whole (single (widgets c bs)) := by
  have hitem : Fits (.item "Column" "children") none := by
    change IsOrdinary _
    decide
  have hcolumn : IsInner (tall "Column" ([("crossAxisAlignment", .atom "CrossAxisAlignment.start"),
      leastSize] ++ [("children", .list true (widgets c bs))])) := by
    apply isInner_listing (by decide) (by decide) _ (everywhere_widgets c bs h hitem)
    exact everywhereInArguments_of_keeps (q := False) (by simp +decide [leastSize])
      fun _ => isOrdinary_argument (by decide)
  have hwhole : IsOrdinary .whole := by decide
  cases bs with
  | nil => exact hcolumn _ hwhole
  | cons b bs =>
    cases bs with
    | nil => exact everywhere_widget c b h.1 hwhole
    | cons => exact hcolumn _ hwhole

end Flutter

/-- **Widgets respect what their parents have to see.** What is placed stands in the list of a
stack, and nothing else does; what takes a share stands in the list of a row or of a column, and
leaves its length on that axis to the share. -/
theorem normalize_abides (o : NormalizeOptions Float) (c : Context)
    (selection : List (HostNode Float)) {a : Arena Float}
    (h : (normalizeInto o c selection).1 = .ok a) (d : Context) :
    ∃ bs w, a.branches = .ok bs ∧ w = Flutter.single (Flutter.widgets d bs) ∧
      Framework.code d bs .flutter = w.text Flutter.literals ∧ w.Keeps (.any True) ∧
      ∀ s e, Expr.Stands .whole w s e → Flutter.Abides s e := by
  obtain ⟨_, rfl⟩ := normalizeSources_eq_ok_iff.mp h
  have hholds := Arena.restructure_holds o (HostNode.toSources selection)
  have hunder := Scene.areUnder_branches none
    (Source.buildAll o none (HostNode.toSources selection) ⟨0, []⟩).1
  refine ⟨_, _, hholds.branches_eq, rfl, rfl, ?_, fun s e he => ?_⟩
  · exact (Flutter.speaks_single (Flutter.each_widgets d _)).keeps
  · exact ((Flutter.everywhere_single d hunder).of_stands he).self

theorem toolbar_abides : ∃ (a : Arena Float) (bs : List (Branch Float)) (e : Expr),
    (normalizeInto default .empty toolbar).1 = .ok a ∧ a.branches = .ok bs ∧
      Expr.Stands .whole (Flutter.single (Flutter.widgets .empty bs)) (.item "Row" "children") e ∧
      e.name? = some "Expanded" ∧ ∀ v, ("width", v) ∉ (Flutter.core e).arguments := by
  have hholds := Arena.restructure_holds default (HostNode.toSources toolbar)
  obtain ⟨bs, w, hbs, hw, _, _, habides⟩ := normalize_abides default .empty toolbar rfl .empty
  cases hbs.symm.trans hholds.branches_eq
  obtain ⟨x, y, z, as, hshape⟩ : ∃ x y z as, w = .call true "SizedBox" [("width", x),
      ("height", y), ("child", .call true "Row" [("crossAxisAlignment", z),
        ("children", .list true [.call true "Expanded" as])])] := ⟨_, _, _, _, hw.trans rfl⟩
  have hitem : Expr.Stands .whole w (.item "Row" "children") (.call true "Expanded" as) := by
    have hself : Expr.Stands .whole w .whole w := .self
    have hchild := (hshape ▸ hself).argument (mem_cons_of_mem _ (mem_cons_of_mem _ mem_cons_self))
    have hchildren := hchild.argument (mem_cons_of_mem _ mem_cons_self)
    exact hshape ▸ hchildren.item mem_cons_self
  obtain ⟨main, hmain, hsilent⟩ := (habides _ _ hitem).expanded rfl
  cases main with
  | horizontal => exact ⟨_, _, _, rfl, hbs, hw ▸ hitem, rfl, hsilent⟩
  | vertical => simp [Flutter.flowName] at hmain

end Artboard
