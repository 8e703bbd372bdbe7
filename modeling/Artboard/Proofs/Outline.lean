import Artboard.Proofs.Unfolding

/-!
# Runs without inference

A run that infers nothing does to a tree of sources what two plain recursions do. The first, from
the leaves up, drops what leaves nothing behind and puts lone children where their groups were. The
second, from the roots down, lets no container hug on an axis on which it fills what it then lies in.
-/

open List

namespace Artboard

/-! ## From the leaves up -/

namespace Source

variable {α : Type} [Scalar α] [Circular α]

mutual

/-- What a source leaves behind, with every layout as it was declared. -/
def outline? : Source α → Option (Figure α)
  | node d cs =>
    if !d.isKept then none
    else
      match d.kind, outlines cs with
      | .container, [] => some (.node ⟨.rectangle, d.snapshotProps⟩ [])
      | .container, fs =>
        some (.node ⟨.container (d.declared.getD (.freeForm d.clips)), d.snapshotProps⟩ fs)
      | .group, [] => none
      | .group, [only] => some (only.shift d.props.geometry.x d.props.geometry.y)
      | .group, fs => some (.node ⟨.group, d.snapshotProps⟩ fs)
      | _, _ => d.snapshot.map (.node · [])

def outlines : List (Source α) → List (Figure α)
  | [] => []
  | s :: ss => (outline? s).toList ++ outlines ss

end

theorem outlines_cons (s : Source α) (ss : List (Source α)) :
    outlines (s :: ss) = outlines [s] ++ outlines ss := by
  simp only [outlines, append_nil]

section
variable {d : Draft α} {cs : List (Source α)}

theorem outlines_of_not_isKept (h : d.isKept = false) : outlines [node d cs] = [] := by
  simp [outlines, outline?, h]

variable (h : d.isKept = true)
include h

theorem outlines_leaf {e : Element α} (hk : d.kind.hasChildren = false)
    (he : d.snapshot = some e) : outlines [node d cs] = [.node e []] := by
  cases hd : d.kind with
  | container => rw [hd] at hk; cases hk
  | group => rw [hd] at hk; cases hk
  | _ => simp [outlines, outline?, h, hd, he]

theorem outlines_container (hk : d.kind = .container) (hcs : outlines cs ≠ []) :
    outlines [node d cs] =
      [.node ⟨.container (d.declared.getD (.freeForm d.clips)), d.snapshotProps⟩ (outlines cs)] := by
  cases hout : outlines cs with
  | nil => exact absurd hout hcs
  | cons f fs => simp [outlines, outline?, h, hk, hout]

theorem outlines_container_nil (hk : d.kind = .container) (hcs : outlines cs = []) :
    outlines [node d cs] = [.node ⟨.rectangle, d.snapshotProps⟩ []] := by
  simp [outlines, outline?, h, hk, hcs]

theorem outlines_group (hk : d.kind = .group) (hcs : 2 ≤ (outlines cs).length) :
    outlines [node d cs] = [.node ⟨.group, d.snapshotProps⟩ (outlines cs)] := by
  match hout : outlines cs with
  | [] => simp [hout] at hcs
  | [_] => simp [hout] at hcs
  | f :: g :: fs => simp [outlines, outline?, h, hk, hout]

theorem outlines_group_singleton (hk : d.kind = .group) {f : Figure α} (hcs : outlines cs = [f]) :
    outlines [node d cs] = [f.shift d.props.geometry.x d.props.geometry.y] := by
  simp [outlines, outline?, h, hk, hcs]

theorem outlines_group_nil (hk : d.kind = .group) (hcs : outlines cs = []) :
    outlines [node d cs] = [] := by
  simp [outlines, outline?, h, hk, hcs]

end

end Source

/-! ## From the roots down -/

namespace Element

variable {α : Type} [Scalar α]

/-- The element in a parent with the flow, if it has one: it hugs on no axis that it fills. -/
def sizedIn (parent : Option Flow) (e : Element α) : Element α :=
  match parent, e.kind with
  | some f, .container l => { e with kind := .container (e.settledLayout f l) }
  | _, _ => e

theorem sizedIn_none (e : Element α) : e.sizedIn none = e := rfl

theorem sizedIn_some (f : Flow) (e : Element α) : e.sizedIn (some f) = e.settle f := by
  unfold sizedIn
  cases hk : e.kind with
  | container l => rw [settle_of_container f hk]
  | _ => rw [settle_of_layout?_eq_none f (by rw [hk]; rfl)]

end Element

namespace Figure

variable {α : Type} [Scalar α]

mutual

def sizedIn (parent : Option Flow) : Figure α → Figure α
  | node e cs => node (e.sizedIn parent) (sizedAllIn (some e.flow) cs)

def sizedAllIn (parent : Option Flow) : List (Figure α) → List (Figure α)
  | [] => []
  | f :: fs => sizedIn parent f :: sizedAllIn parent fs

end

theorem sizedAllIn_eq_map (parent : Option Flow) :
    ∀ fs : List (Figure α), sizedAllIn parent fs = fs.map (sizedIn parent)
  | [] => rfl
  | f :: fs => by rw [sizedAllIn, sizedAllIn_eq_map parent fs, map_cons]

theorem map_settle_sizedAllIn (f : Flow) (fs : List (Figure α)) :
    (sizedAllIn none fs).map (mapElement (Element.settle f)) = sizedAllIn (some f) fs := by
  rw [sizedAllIn_eq_map, sizedAllIn_eq_map, map_map]
  refine map_congr_left fun g _ => ?_
  cases g with
  | node e cs =>
    simp only [Function.comp_apply, sizedIn, mapElement, Element.sizedIn_none, Element.sizedIn_some]

theorem sizedAllIn_none_eq_nil_iff {fs : List (Figure α)} : sizedAllIn none fs = [] ↔ fs = [] := by
  rw [sizedAllIn_eq_map, map_eq_nil_iff]

theorem sizedAllIn_free (fs : List (Figure α)) :
    sizedAllIn (some .free) fs = sizedAllIn none fs := by
  rw [← map_settle_sizedAllIn]
  exact (map_congr_left fun g _ => mapElement_eq_self
    (Element.settle_of_isFlow_eq_false rfl g.element)).trans (map_id _)

theorem sizedIn_none_shift (g : Figure α) (dx dy : α) :
    (g.shift dx dy).sizedIn none = (g.sizedIn none).shift dx dy := by
  cases g
  rfl

end Figure

/-! ## The figures of a run -/

namespace Source

open Figure

variable {α : Type} [Scalar α] [Circular α] {o : NormalizeOptions α}

theorem outline_induction (ho : o.infer = false) :
    Induction o fun ss fs => fs = sizedAllIn none (outlines ss) where
  nil := rfl
  append := fun {s ss fs gs} hs hss => by
    rw [outlines_cons, sizedAllIn_eq_map, map_append, ← sizedAllIn_eq_map, ← sizedAllIn_eq_map,
      ← hs, ← hss]
  omitted := fun hkept => by
    rw [outlines_of_not_isKept hkept]
    rfl
  leaf := fun hkept hk he => by
    rw [outlines_leaf hkept hk he]
    rfl
  container := fun {d cs f} hkept hk ih hstep => by
    cases hstep with
    | empty hcs =>
      rw [outlines_container_nil hkept hk (sizedAllIn_none_eq_nil_iff.mp (ih.symm.trans hcs))]
      rfl
    | kept hne =>
      rw [ih, Ne, sizedAllIn_none_eq_nil_iff] at hne
      rw [outlines_container hkept hk hne, settled, ih, map_settle_sizedAllIn]
      rfl
    -- without inference nothing is reordered or promoted
    | flowing _ _ hi => cases ho.symm.trans hi
    | promoted _ _ _ _ _ hi => cases ho.symm.trans hi
  group := fun {d cs r} hkept hk ih hstep => by
    cases hstep with
    | empty hcs =>
      rw [outlines_group_nil hkept hk (sizedAllIn_none_eq_nil_iff.mp (ih.symm.trans hcs))]
      rfl
    | single f hcs =>
      rw [ih, sizedAllIn_eq_map, map_eq_singleton_iff] at hcs
      obtain ⟨g, hg, rfl⟩ := hcs
      rw [outlines_group_singleton hkept hk hg, ← sizedIn_none_shift]
      rfl
    | promoted _ _ _ _ hi => cases ho.symm.trans hi
    | kept htwo =>
      rw [ih, sizedAllIn_eq_map, length_map] at htwo
      rw [outlines_group hkept hk htwo, ih, ← sizedAllIn_free]
      rfl

theorem figures_eq_sizedAllIn (ho : o.infer = false) (ss : List (Source α)) :
    figures o ss = sizedAllIn none (outlines ss) :=
  (outline_induction ho).all ss

end Source

/-! ## Tolerances -/

namespace Scene

variable {α : Type} [Scalar α] {o o' : NormalizeOptions α} (ho : o.infer = false)
  (ho' : o'.infer = false)
include ho ho'

theorem ofContainer_congr (declared : Bool) (slot : Nat) (e : Element α)
    (kids : List (Scene α)) :
    ofContainer o declared slot e kids = ofContainer o' declared slot e kids := by
  unfold ofContainer
  rw [ho, ho', Bool.and_false]
  cases e.kind <;> rfl

theorem ofGroup_congr (parent : Option Nat) (slot : Nat) (e : Element α) (kids : List (Scene α)) :
    ofGroup o parent slot e kids = ofGroup o' parent slot e kids := by
  match kids with
  | [] => rfl
  | [_] => rfl
  | _ :: _ :: _ => simp only [ofGroup, ho, ho']

end Scene

namespace Source

variable {α : Type} [Scalar α] [Circular α] {o o' : NormalizeOptions α}

mutual

theorem build_eq_of_infer (ho : o.infer = false) (ho' : o'.infer = false) (parent : Option Nat) :
    ∀ s : Source α, build o parent s = build o' parent s
  | node d cs => by
    have ih := fun i => buildAll_eq_of_infer ho ho' (some i) cs
    unfold build
    simp only [ih, Scene.ofContainer_congr ho ho', Scene.ofGroup_congr ho ho']

theorem buildAll_eq_of_infer (ho : o.infer = false) (ho' : o'.infer = false)
    (parent : Option Nat) : ∀ ss : List (Source α), buildAll o parent ss = buildAll o' parent ss
  | [] => rfl
  | s :: ss => by
    rw [buildAll, buildAll, build_eq_of_infer ho ho' parent s, buildAll_eq_of_infer ho ho' parent ss]

end

end Source

section
variable {α : Type} [Scalar α] [Circular α]

theorem restructure_eq_of_infer {o o' : NormalizeOptions α} (ho : o.infer = false)
    (ho' : o'.infer = false) (ss : List (Source α)) : restructure o ss = restructure o' ss := by
  simp only [restructure, Source.buildAll_eq_of_infer ho ho']

/-- **Without inference a run is a plain rewrite of its sources,** whatever the tolerances. -/
theorem normalize_unfoldsAll_outlines (t : Tolerances α) (c : Context)
    (selection : List (HostNode α)) :
    (∀ a, (normalizeInto ⟨t, false⟩ c selection).1 = .ok a →
      a.UnfoldsAll a.roots
        (Figure.sizedAllIn none (Source.outlines (HostNode.toSources selection)))) ∧
      ∀ t', normalizeInto ⟨t', false⟩ c selection = normalizeInto ⟨t, false⟩ c selection := by
  constructor
  · intro a h
    obtain ⟨_, rfl⟩ := normalizeSources_eq_ok_iff.mp h
    rw [← Source.figures_eq_sizedAllIn (o := ⟨t, false⟩) rfl]
    exact Arena.restructure_unfoldsAll _ _
  · intro t'
    have hsame : restructure ⟨t', false⟩ (HostNode.toSources selection) =
        restructure ⟨t, false⟩ (HostNode.toSources selection) := restructure_eq_of_infer rfl rfl _
    simp only [normalizeInto, normalizeSources, hsame]

end

/-- A row of a group around a column that fills the row and hugs, and of a group that holds nothing. -/
def toolbar : List (HostNode Float) :=
  [.node { HostProps.plain "1" "row" .frame ⟨0, 0, 100, 40, 0⟩ with layoutMode := some .horizontal }
    [.node (.plain "2" "wrap" .group ⟨10, 10, 50, 30, 0⟩)
      [.node { HostProps.plain "3" "column" .frame ⟨2, 2, 40, 20, 0⟩ with
          layoutMode := some .vertical, primarySizing := .auto, counterSizing := .auto,
          layoutGrow := 1 }
        [.node (.plain "4" "dot" .ellipse ⟨0, 0, 10, 10, 0⟩) []]],
      .node (.plain "5" "void" .group ⟨70, 10, 20, 20, 0⟩) []]]

theorem toolbar_unfoldsAll : ∃ a, (normalizeInto ⟨default, false⟩ .empty toolbar).1 = .ok a ∧
    a.UnfoldsAll a.roots (Figure.sizedAllIn none (Source.outlines (HostNode.toSources toolbar))) :=
  ⟨_, rfl, (normalize_unfoldsAll_outlines default .empty toolbar).1 _ rfl⟩

example : (Figure.sizedAllIn none (Source.outlines (HostNode.toSources toolbar))).flatMap
    (fun f => f.children.map fun g =>
      g.element.kind.layout?.map fun l => (l.horizontalSizing, l.verticalSizing)) =
    [some (.fixed, .hug)] := rfl

end Artboard
