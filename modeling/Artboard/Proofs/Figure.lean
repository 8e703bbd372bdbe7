import Artboard.Proofs.InferredOrder

/-!
# Figures

A figure is a tree of elements that have no slots. Every step of a build is repeated on figures, as
a function of its children alone, and a build followed by forgetting slots is that function: what a
source is made into depends neither on the numbers handed out before nor on those handed out after.
-/

open List

namespace Artboard

inductive Figure (α : Type)
  | node (element : Element α) (children : List (Figure α))

namespace Figure

variable {α : Type}

def element : Figure α → Element α
  | node e _ => e

def children : Figure α → List (Figure α)
  | node _ cs => cs

def mapElement (f : Element α → Element α) : Figure α → Figure α
  | node e cs => node (f e) cs

@[simp] theorem element_node (e : Element α) (cs : List (Figure α)) : (node e cs).element = e := rfl

@[simp] theorem children_node (e : Element α) (cs : List (Figure α)) :
    (node e cs).children = cs := rfl

@[simp] theorem element_mapElement (g : Element α → Element α) (f : Figure α) :
    (f.mapElement g).element = g f.element := by cases f; rfl

@[simp] theorem children_mapElement (g : Element α → Element α) (f : Figure α) :
    (f.mapElement g).children = f.children := by cases f; rfl

theorem mapElement_eq_self {g : Element α → Element α} {f : Figure α} (h : g f.element = f.element) :
    f.mapElement g = f := by
  cases f with
  | node e cs => exact congrArg (node · cs) h

variable [Scalar α]

def shift (f : Figure α) (dx dy : α) : Figure α := f.mapElement fun e => e.shift dx dy

@[simp] theorem element_shift (f : Figure α) (dx dy : α) :
    (f.shift dx dy).element = f.element.shift dx dy := element_mapElement ..

@[simp] theorem children_shift (f : Figure α) (dx dy : α) : (f.shift dx dy).children = f.children :=
  children_mapElement ..

def isPromotable (f : Figure α) : Bool :=
  match f.element.kind with
  | .rectangle => true
  | .container _ => f.children.isEmpty
  | _ => false

def item (f : Figure α) : Item α := ⟨f.element.props.bounds, f.isPromotable⟩

def settled (e : Element α) (cs : List (Figure α)) : Figure α :=
  node e (cs.map (mapElement (Element.settle e.flow)))

def inference (o : NormalizeOptions α) (cs : List (Figure α)) : Inference α :=
  Inference.ofItems o.tolerances (cs.map item)

def background? (cs : List (Figure α)) (i : Inference α) : Option (Figure α) := do
  let k ← i.promoted
  cs[k]?

def inOrder (cs : List (Figure α)) (order : List Nat) : List (Figure α) :=
  order.filterMap fun k => cs[k]?

def promote (cs : List (Figure α)) (i : Inference α) (background : Figure α) : Figure α :=
  let e := background.element
  let g := e.props.geometry
  settled (Scene.promotedElement e i) ((inOrder cs i.order).map fun f => f.shift (-g.x) (-g.y))

def inferContainer (o : NormalizeOptions α) (e : Element α) (l : ContainerLayout α)
    (cs : List (Figure α)) : Figure α :=
  let i := inference o cs
  match background? cs i with
  | some b => settled { e with kind := .container { l with origin := .inferred } } [promote cs i b]
  | none =>
    if i.flow.isFlow then
      let layout := { l with
        flow := i.flow, origin := .inferred, itemSpacing := i.spacing, alignment := i.alignment }
      settled { e with kind := .container layout } (inOrder cs i.order)
    else settled e cs

def ofContainer (o : NormalizeOptions α) (declared : Bool) (e : Element α)
    (cs : List (Figure α)) : Figure α :=
  if cs.isEmpty then node { e with kind := .rectangle } []
  else
    match e.kind, !declared && o.infer with
    | .container l, true => inferContainer o e l cs
    | _, _ => settled e cs

def ofGroup (o : NormalizeOptions α) (e : Element α) : List (Figure α) → Option (Figure α)
  | [] => none
  | [only] => some (only.shift e.props.geometry.x e.props.geometry.y)
  | cs =>
    let i := inference o cs
    match o.infer, background? cs i with
    | true, some b => some ((promote cs i b).shift e.props.geometry.x e.props.geometry.y)
    | _, _ => some (node e cs)

end Figure

namespace Source

variable {α : Type} [Scalar α] [Circular α] (o : NormalizeOptions α)

mutual

/-- What a source is made into; nothing if it is left out or dissolves. -/
def figure? : Source α → Option (Figure α)
  | node d children =>
    match d.isKept, d.snapshot with
    | true, some e =>
      match d.kind with
      | .container => some (Figure.ofContainer o d.declared.isSome e (figures children))
      | .group => Figure.ofGroup o e (figures children)
      | _ => some (.node e [])
    | _, _ => none

def figures : List (Source α) → List (Figure α)
  | [] => []
  | s :: rest => (figure? s).toList ++ figures rest

end

end Source

/-! ## A build makes the figures of its sources -/

namespace Scene

variable {α : Type}

mutual

def figure : Scene α → Figure α
  | node _ e cs => .node e (figures cs)

def figures : List (Scene α) → List (Figure α)
  | [] => []
  | s :: rest => figure s :: figures rest

end

theorem figures_eq_map : ∀ l : List (Scene α), figures l = l.map figure
  | [] => rfl
  | s :: l => by rw [figures, figures_eq_map l, map_cons]

@[simp] theorem figure_node (i : Nat) (e : Element α) (cs : List (Scene α)) :
    (node i e cs).figure = .node e (cs.map figure) := by rw [figure, figures_eq_map]

@[simp] theorem element_figure (s : Scene α) : s.figure.element = s.element := by
  cases s; rw [figure_node]; rfl

@[simp] theorem children_figure (s : Scene α) : s.figure.children = s.children.map figure := by
  cases s; rw [figure_node]; rfl

@[simp] theorem figure_mapElement (f : Element α → Element α) (s : Scene α) :
    (s.mapElement f).figure = s.figure.mapElement f := by
  cases s; simp [mapElement, Figure.mapElement]

theorem figure_inOrder (cs : List (Scene α)) (order : List Nat) :
    (inOrder cs order).map figure = Figure.inOrder (cs.map figure) order := by
  simp [inOrder, Figure.inOrder, map_filterMap, getElem?_map]

variable [Scalar α]

@[simp] theorem figure_shift (s : Scene α) (dx dy : α) :
    (s.shift dx dy).figure = s.figure.shift dx dy := figure_mapElement ..

omit [Scalar α] in
theorem isPromotable_figure (s : Scene α) : s.figure.isPromotable = s.isPromotable := by
  have hempty : s.figure.children.isEmpty = s.children.isEmpty := by
    rw [children_figure, isEmpty_map]
  unfold Figure.isPromotable isPromotable
  rw [element_figure]
  cases s.element.kind with
  | container l => exact hempty
  | _ => rfl

omit [Scalar α] in
theorem item_figure (s : Scene α) : s.figure.item = s.item := by
  rw [Figure.item, isPromotable_figure, element_figure]
  rfl

@[simp] theorem figure_settled (slot : Nat) (e : Element α) (cs : List (Scene α)) :
    (settled slot e cs).figure = .settled e (cs.map figure) := by
  simp [settled, Figure.settled]

theorem inference_figures (o : NormalizeOptions α) (cs : List (Scene α)) :
    Figure.inference o (cs.map figure) = inference o cs := by
  simp only [Figure.inference, inference, map_map]
  congr 1
  exact map_congr_left fun s _ => item_figure s

omit [Scalar α] in
theorem background?_figures (cs : List (Scene α)) (i : Inference α) :
    Figure.background? (cs.map figure) i = (background? cs i).map figure := by
  unfold background? Figure.background?
  cases i.promoted <;> simp

theorem figure_promote (parent : Nat) (cs : List (Scene α)) (i : Inference α) (b : Scene α)
    (l : Ledger α) :
    (promote parent cs i b l).1.figure = Figure.promote (cs.map figure) i b.figure := by
  change (settled _ _ _).figure = _
  rw [figure_settled, map_map, Figure.promote, element_figure, ← figure_inOrder, map_map]
  simp [Function.comp_def]

theorem figure_inferContainer (o : NormalizeOptions α) (slot : Nat) (e : Element α)
    (layout : ContainerLayout α) (cs : List (Scene α)) (l : Ledger α) :
    (inferContainer o slot e layout cs l).1.figure =
      Figure.inferContainer o e layout (cs.map figure) := by
  simp only [inferContainer, Figure.inferContainer, inference_figures, background?_figures]
  cases hb : background? cs (inference o cs) with
  | some b =>
    change (settled _ _ _).figure = _
    rw [figure_settled, map_singleton]
    exact congrArg (fun f => Figure.settled _ [f]) (figure_promote slot cs _ b l)
  | none =>
    simp only [Option.map_none]
    split
    · change (settled _ _ _).figure = _
      rw [figure_settled, figure_inOrder]
    · change (settled _ _ _).figure = _
      rw [figure_settled]

theorem figure_ofContainer (o : NormalizeOptions α) (declared : Bool) (slot : Nat) (e : Element α)
    (cs : List (Scene α)) (l : Ledger α) :
    (ofContainer o declared slot e cs l).1.figure =
      Figure.ofContainer o declared e (cs.map figure) := by
  unfold ofContainer Figure.ofContainer
  rw [isEmpty_map]
  split
  · exact figure_node ..
  · cases e.kind with
    | container layout =>
      cases !declared && o.infer with
      | true => exact figure_inferContainer ..
      | false => exact figure_settled ..
    | _ => exact figure_settled ..

theorem figure_ofGroup (o : NormalizeOptions α) (parent : Option Nat) (slot : Nat) (e : Element α)
    (cs : List (Scene α)) (l : Ledger α) :
    (ofGroup o parent slot e cs l).1.map figure = Figure.ofGroup o e (cs.map figure) := by
  match cs with
  | [] => rfl
  | [only] => exact congrArg some (figure_shift ..)
  | a :: b :: rest =>
    simp only [ofGroup, Figure.ofGroup, map_cons]
    rw [← map_cons, ← map_cons, inference_figures, background?_figures]
    cases background? (a :: b :: rest) (inference o (a :: b :: rest)) with
    | none => cases o.infer <;> exact congrArg some (figure_node ..)
    | some back =>
      cases o.infer with
      | false => exact congrArg some (figure_node ..)
      | true =>
        simp only [Option.map_some]
        rw [← figure_promote slot _ _ _ l, ← figure_shift]
        rfl

end Scene

namespace Source

variable {α : Type} [Scalar α] [Circular α] (o : NormalizeOptions α)

mutual

theorem build_figure (parent : Option Nat) : ∀ (s : Source α) (l : Ledger α),
    (build o parent s l).1.map Scene.figure = figure? o s
  | node d children, l => by
    unfold build figure?
    have ih := buildAll_figures (some l.next) children { l with next := l.next + 1 }
    cases d.isKept with
    | false => rfl
    | true =>
      cases d.snapshot with
      | none => rfl
      | some e =>
        cases d.kind with
        | container => rw [← ih]; exact congrArg some (Scene.figure_ofContainer ..)
        | group => rw [← ih]; exact Scene.figure_ofGroup ..
        | _ => rfl

theorem buildAll_figures (parent : Option Nat) : ∀ (ss : List (Source α)) (l : Ledger α),
    (buildAll o parent ss l).1.map Scene.figure = figures o ss
  | [], _ => rfl
  | s :: rest, l => by
    have first := build_figure parent s l
    have others := buildAll_figures parent rest (build o parent s l).2
    unfold figures
    rw [← first, ← others, Option.toList_map, ← map_append]
    rfl

end

end Source

end Artboard
