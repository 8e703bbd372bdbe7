import Artboard.Proofs.PaintOrder
import Artboard.Proofs.Snapshots
import Artboard.Proofs.Sorting
import Artboard.Proofs.Survival
import Mathlib

/-!
# Rows and columns that were inferred

Inference looks at boxes in paint order, measured from a background if there is one. The children it
leaves behind stand in flow order, in the space of the background, and no later rewrite moves them or
puts them into another order: looked at again, their boxes form the row or the column they were said
to form.
-/

open List Std

namespace Artboard

/-! ## What inference picks -/

namespace Inference

variable {α : Type} [Scalar α] {t : Tolerances α} {β : Type} {cs : List β}

omit [Scalar α] in
theorem map_picks {box : β → Box α} : ∀ {found : List (Placed α)},
    (∀ p ∈ found, (cs[p.1]?).map box = some p.2) →
      ((found.map (·.1)).filterMap (cs[·]?)).map box = found.map (·.2)
  | [], _ => rfl
  | p :: found, h => by
    have ih := map_picks fun q hq => h q (mem_cons_of_mem _ hq)
    have hp := h p mem_cons_self
    obtain ⟨c, hc, hbox⟩ := Option.map_eq_some_iff.mp hp
    rw [map_cons, filterMap_cons_some hc, map_cons, map_cons, ih, hbox]

variable [TransCmp (@Scalar.totalCompare α _)]

theorem confirms_members {box : β → Box α} {members : List (Placed α)}
    (hbox : ∀ p ∈ members, (cs[p.1]?).map box = some p.2)
    (hflow : (Detection.ofPlaced t members).flow.isFlow = true) :
    Detection.Confirms t (Detection.ofPlaced t members).flow
      (Detection.ofPlaced t members).spacing
      (((Detection.ofPlaced t members).order.filterMap (cs[·]?)).map box) := by
  obtain ⟨axis, haxis, _, _, _, heq⟩ := Detection.ofPlaced_of_isFlow hflow
  have horder : (Detection.ofPlaced t members).order =
      (Detection.sortAlong axis members).map (·.1) := by
    rw [heq]
    rfl
  have hsorted : ∀ p ∈ Detection.sortAlong axis members, (cs[p.1]?).map box = some p.2 :=
    fun p hp => hbox p (mem_mergeSort.mp hp)
  rw [horder, map_picks hsorted]
  exact Detection.confirms_ofPlaced hflow haxis

variable {item : β → Item α} {i : Inference α} (hi : i = ofItems t (cs.map item))
  (hflow : i.flow.isFlow = true)
include hi hflow

theorem confirms_of_no_background (hb : i.promoted.bind (cs[·]?) = none) :
    Detection.Confirms t i.flow i.spacing
      ((i.order.filterMap (cs[·]?)).map fun c => (item c).box) := by
  have hnone : background t (cs.map item) = none := by
    rcases background_map_cases t item cs with hnone | ⟨b, rest, rfl, hk⟩
    · exact hnone
    · rw [hi, promoted_ofItems, hk] at hb
      cases hb
  subst hi
  rw [ofItems_of_no_background t hnone, map_map] at hflow ⊢
  exact confirms_members (fun p hp => Detection.getElem?_of_mem_place hp) hflow

theorem confirms_of_background {b : β} (hb : i.promoted.bind (cs[·]?) = some b) :
    Detection.Confirms t i.flow i.spacing ((i.order.filterMap (cs[·]?)).map fun c =>
      (item c).box.shift (-(item b).box.x) (-(item b).box.y)) := by
  subst hi
  rw [promoted_ofItems] at hb
  rcases background_map_cases t item cs with hk | ⟨c, rest, rfl, hk⟩
  · rw [hk] at hb
    cases hb
  · rw [hk] at hb
    cases hb
    rw [map_cons] at hk hflow ⊢
    rw [ofItems_of_background t hk] at hflow ⊢
    refine confirms_members (fun p hp => ?_) hflow
    have hbox := getElem?_of_mem_members hp
    rwa [← map_cons, getElem?_map, Option.map_map] at hbox

end Inference

/-! ## Layouts that hold -/

namespace Figure

variable {α : Type} [Scalar α] {t : Tolerances α} {o : NormalizeOptions α}

def boxes (cs : List (Figure α)) : List (Box α) := cs.map fun f => f.element.props.bounds

@[simp] theorem boxes_settle (f : Flow) (cs : List (Figure α)) :
    boxes (cs.map (mapElement (Element.settle f))) = boxes cs := by
  simp [boxes, Function.comp_def]

theorem boxes_shift (dx dy : α) (cs : List (Figure α)) :
    boxes (cs.map fun f => f.shift dx dy) = cs.map fun f => f.element.props.bounds.shift dx dy := by
  unfold boxes
  rw [map_map]
  refine map_congr_left fun f _ => ?_
  simp only [Function.comp_apply, element_shift]
  rfl

/-- A row or a column that was inferred is the one that the boxes of the children form. -/
def IsConfirmed (t : Tolerances α) (e : Element α) (cs : List (Figure α)) : Prop :=
  ∀ l, e.kind = .container l → l.origin = .inferred → l.flow.isFlow = true →
    Detection.Confirms t l.flow l.itemSpacing (boxes cs)

theorem IsConfirmed.shift {e : Element α} {cs : List (Figure α)} (h : IsConfirmed t e cs)
    (dx dy : α) : IsConfirmed t (e.shift dx dy) cs := h

theorem IsConfirmed.settle {e : Element α} {cs : List (Figure α)} (h : IsConfirmed t e cs)
    (f : Flow) : IsConfirmed t (e.settle f) cs := by
  rcases Element.container_or_settle_eq f e with ⟨l, hl⟩ | he
  · intro l' hl' ho hflow
    rw [Element.settle_of_container f hl] at hl'
    cases hl'
    exact h l hl ho hflow
  · rwa [he]

theorem isConfirmed_of_explicit {l : ContainerLayout α} {p : Props α} (h : l.origin = .explicit)
    (cs : List (Figure α)) : IsConfirmed t ⟨.container l, p⟩ cs := by
  intro l' hl' ho
  cases hl'
  rw [h] at ho
  cases ho

theorem isConfirmed_of_layout?_eq_none {e : Element α} (h : e.kind.layout? = none)
    (cs : List (Figure α)) : IsConfirmed t e cs := by
  intro l hl
  rw [hl] at h
  cases h

theorem everyOf_confirmed_settle {cs : List (Figure α)} (h : EveryOf (IsConfirmed t) cs) (f : Flow) :
    EveryOf (IsConfirmed t) (cs.map (mapElement (Element.settle f))) :=
  h.map_mapElement fun hp => hp.settle f

/-! ## Every step leaves layouts that hold -/

variable [TransCmp (@Scalar.totalCompare α _)]

theorem every_confirmed_promote {b : Figure α} {rest : List (Figure α)} {i : Inference α}
    (hi : i = inference o (b :: rest)) (hb : background? (b :: rest) i = some b)
    (hup : b.element.IsUpright) (horder : inOrder (b :: rest) i.order ~ rest)
    (hcs : EveryOf (IsConfirmed o.tolerances) (b :: rest)) :
    Every (IsConfirmed o.tolerances) (promote (b :: rest) i b) := by
  have hmoved : EveryOf (IsConfirmed o.tolerances) ((inOrder (b :: rest) i.order).map fun f =>
      f.shift (-b.element.props.geometry.x) (-b.element.props.geometry.y)) :=
    ((everyOf_perm horder).mpr hcs.2).map_mapElement fun hp => hp.shift _ _
  refine ⟨?_, everyOf_confirmed_settle hmoved _⟩
  intro l hl _ hflow
  cases hl
  have hconfirms := Inference.confirms_of_background hi hflow hb
  -- the box of a background that is not turned begins where its geometry does
  have hx : b.item.box.x = b.element.props.geometry.x := congrArg Box.x hup.bounds
  have hy : b.item.box.y = b.element.props.geometry.y := congrArg Box.y hup.bounds
  rw [hx, hy] at hconfirms
  rw [boxes_settle, boxes_shift]
  exact hconfirms

theorem every_confirmed_container {cs : List (Figure α)} {l : ContainerLayout α} {p : Props α}
    {declared : Bool} {f : Figure α} (hexplicit : l.origin = .explicit)
    (hfree : declared = false → l.flow = .free) (hup : EveryOf (fun e _ => e.IsUpright) cs)
    (hcs : EveryOf (IsConfirmed o.tolerances) cs)
    (hstep : ContainerStep o declared ⟨.container l, p⟩ l cs f) :
    Every (IsConfirmed o.tolerances) f := by
  cases hstep with
  | empty => exact ⟨isConfirmed_of_layout?_eq_none rfl _, trivial⟩
  | kept => exact ⟨isConfirmed_of_explicit hexplicit _, everyOf_confirmed_settle hcs _⟩
  | flowing _ _ _ hb _ horder =>
    refine ⟨?_, everyOf_confirmed_settle ((everyOf_perm horder).mpr hcs) _⟩
    intro l' hl' _ hflow
    cases hl'
    rw [boxes_settle]
    exact Inference.confirms_of_no_background rfl hflow hb
  | promoted b rest hb hrest hd _ _ hback horder =>
    -- what holds the background is free, and its siblings keep the layouts they have
    subst hb
    have hp := every_confirmed_promote rfl hback (every_iff.mp hup.1).1 horder hcs
    refine ⟨?_, everyOf_confirmed_settle (everyOf_singleton.mpr hp) _⟩
    intro l' hl' _ hflow
    cases hl'
    rw [hfree hd] at hflow
    cases hflow

theorem everyOf_confirmed_group {cs : List (Figure α)} {p : Props α} {r : Option (Figure α)}
    (hup : EveryOf (fun e _ => e.IsUpright) cs) (hcs : EveryOf (IsConfirmed o.tolerances) cs)
    (hstep : GroupStep o ⟨.group, p⟩ cs r) : EveryOf (IsConfirmed o.tolerances) r.toList := by
  cases hstep with
  | empty => exact trivial
  | single f hf =>
    subst hf
    exact everyOf_singleton.mpr (hcs.1.mapElement fun hp => hp.shift _ _)
  | promoted b rest hb hrest _ _ hback horder =>
    subst hb
    have hp := every_confirmed_promote rfl hback (every_iff.mp hup.1).1 horder hcs
    exact everyOf_singleton.mpr (hp.mapElement fun hp => hp.shift _ _)
  | kept => exact everyOf_singleton.mpr ⟨isConfirmed_of_layout?_eq_none rfl _, hcs⟩

end Figure

/-! ## All sources of a selection -/

/-- Not turned, and with a layout of its own choice if it has one. -/
structure Draft.IsPlain {α : Type} [Scalar α] (d : Draft α) : Prop where
  isRotated : d.props.geometry.isRotated = false
  origin : ∀ l, d.declared = some l → l.origin = .explicit

theorem Draft.IsPlain.layout {α : Type} [Scalar α] {d : Draft α} (h : d.IsPlain) :
    (d.declared.getD (.freeForm d.clips)).origin = .explicit ∧
      (d.declared.isSome = false → (d.declared.getD (.freeForm d.clips)).flow = .free) := by
  cases hd : d.declared with
  | none => exact ⟨rfl, fun _ => rfl⟩
  | some l => exact ⟨h.origin l hd, nofun⟩

theorem HostProps.origin_of_declared {α : Type} [Scalar α] {p : HostProps α} {l : ContainerLayout α}
    (h : p.toDraft.declared = some l) : l.origin = .explicit := by
  obtain ⟨flow, _, rfl⟩ := Option.map_eq_some_iff.mp h
  rfl

namespace Source

variable {α : Type} [Scalar α] [Circular α] [TransCmp (@Scalar.totalCompare α _)]

theorem confirmed_induction (o : NormalizeOptions α) : Induction o fun ss fs =>
    (∀ s ∈ survivorsOfAll ss, s.draft.IsPlain) →
      Figure.EveryOf (Figure.IsConfirmed o.tolerances) fs where
  nil := fun _ => trivial
  append := fun hs hss hd => by
    rw [survivorsOfAll_cons, forall_mem_append] at hd
    exact Figure.everyOf_append.mpr ⟨hs hd.1, hss hd.2⟩
  omitted := fun _ _ => trivial
  leaf := fun {d cs e} _ hk he _ => by
    have hnone := (Kind.of_isParent_eq_false ((Draft.isParent_snapshot he).trans hk)).1
    exact ⟨⟨Figure.isConfirmed_of_layout?_eq_none hnone _, trivial⟩, trivial⟩
  container := fun {d cs f} hkept hk ih hstep hd => by
    rw [survivorsOfAll_container hkept hk, forall_mem_cons] at hd
    have hup := Figure.isUpright_invariant.everyOf_figures (o := o) fun s hs => (hd.2 s hs).isRotated
    have hlayout := Draft.IsPlain.layout hd.1
    exact Figure.everyOf_singleton.mpr
      (Figure.every_confirmed_container hlayout.1 hlayout.2 hup (ih hd.2) hstep)
  group := fun hkept hk ih hstep hd => by
    rw [survivorsOfAll_group hkept hk, forall_mem_cons] at hd
    have hup := Figure.isUpright_invariant.everyOf_figures (o := o) fun s hs => (hd.2 s hs).isRotated
    exact Figure.everyOf_confirmed_group hup (ih hd.2) hstep

end Source

namespace HostNode

variable {α : Type} [Scalar α]

mutual

theorem every_toSource {D : Draft α → Prop} (hD : ∀ p : HostProps α, D p.toDraft) :
    ∀ n : HostNode α, Source.Every D n.toSource
  | node p ns => by
    rw [toSource]
    exact ⟨hD p, everyOf_toSources hD ns⟩

theorem everyOf_toSources {D : Draft α → Prop} (hD : ∀ p : HostProps α, D p.toDraft) :
    ∀ ns : List (HostNode α), Source.EveryOf D (toSources ns)
  | [] => trivial
  | n :: ns => by
    rw [toSources]
    exact ⟨every_toSource hD n, everyOf_toSources hD ns⟩

end

end HostNode

/-! ## The result of a run -/

theorem Arena.forall₂_boxes {α : Type} {a : Arena α} : ∀ {is : List Nat} {fs : List (Figure α)},
    a.UnfoldsAll is fs →
      Forall₂ (fun i b => ∃ t, a.get? i = some t ∧ t.element.props.bounds = b) is (Figure.boxes fs)
  | [], [], _ => .nil
  | i :: is, f :: fs, h => by
    have ih := forall₂_boxes h.2
    obtain ⟨t, ht, he, _⟩ := unfolds_iff.mp h.1
    exact .cons ⟨t, ht, by rw [he]⟩ ih

/-- **Rows and columns that were inferred are confirmed by the boxes that are stored.** -/
theorem normalize_confirms {α : Type} [Scalar α] [Circular α] [TransCmp (@Scalar.totalCompare α _)]
    (o : NormalizeOptions α) (c : Context) (selection : List (HostNode α)) {a : Arena α}
    (h : (normalizeInto o c selection).1 = .ok a)
    (hupright : Source.EveryOf (fun d => d.props.geometry.isRotated = false)
      (HostNode.toSources selection))
    {i : Nat} {s : Slot α} {l : ContainerLayout α} (hi : a.Reachable i) (hs : a.get? i = some s)
    (hl : s.element.kind = .container l) (ho : l.origin = .inferred) (hf : l.flow.isFlow = true) :
    ∃ boxes, Forall₂ (fun i b => ∃ t, a.get? i = some t ∧ t.element.props.bounds = b)
        s.children boxes ∧
      Detection.Confirms o.tolerances l.flow l.itemSpacing boxes := by
  obtain ⟨_, rfl⟩ := normalizeSources_eq_ok_iff.mp h
  have hexplicit : Source.EveryOf (fun d => ∀ l, d.declared = some l → l.origin = .explicit)
      (HostNode.toSources selection) :=
    HostNode.everyOf_toSources (fun _ _ h => HostProps.origin_of_declared h) selection
  have hplain : ∀ s ∈ Source.survivorsOfAll (HostNode.toSources selection), s.draft.IsPlain :=
    fun s hs => ⟨Source.EveryOf.of_mem_survivors hupright s hs,
      Source.EveryOf.of_mem_survivors hexplicit s hs⟩
  have hconfirmed := (Source.confirmed_induction o).all _ hplain
  have hunfolds := Arena.restructure_unfoldsAll o (HostNode.toSources selection)
  obtain ⟨f, hf', hP⟩ := Arena.exists_unfolds_of_reachable hunfolds hconfirmed hi
  obtain ⟨s', hs', he, hcs⟩ := Arena.unfolds_iff.mp hf'
  cases hs.symm.trans hs'
  rw [he] at hl
  exact ⟨_, Arena.forall₂_boxes hcs, (Figure.every_iff.mp hP).1 l hl ho hf⟩

def shelf : List (HostNode Rat) :=
  [.node (.plain "1" "shelf" .frame ⟨0, 0, 100, 40, 0⟩)
    [.node (.plain "2" "right" .ellipse ⟨55, 10, 20, 20, 0⟩) [],
      .node (.plain "3" "left" .ellipse ⟨10, 10, 20, 20, 0⟩) []]]

theorem shelf_confirms : ∃ a : Arena Rat,
    (@normalizeInto Rat _ Circular.still default .empty shelf).1 = .ok a ∧ a.Reachable 0 ∧
      ∃ s l, a.get? 0 = some s ∧ s.children = [2, 1] ∧ s.element.kind = .container l ∧
        l.origin = .inferred ∧ l.flow = .row ∧ l.itemSpacing = 25 ∧
        ∃ boxes, Forall₂ (fun i b => ∃ t, a.get? i = some t ∧ t.element.props.bounds = b)
            s.children boxes ∧
          Detection.Confirms (default : NormalizeOptions Rat).tolerances l.flow l.itemSpacing
            boxes := by
  -- only the slot and the roots are evaluated, the rest is the general theorem
  have hslot : ((@restructure Rat _ Circular.still default (HostNode.toSources shelf)).get? 0).map
      (fun s => (s.children, s.element.kind.layout?.map fun l => (l.origin, l.flow, l.itemSpacing)))
        = some ([2, 1], some (.inferred, .row, 25)) := by cbv
  have hreach : (@restructure Rat _ Circular.still default
      (HostNode.toSources shelf)).Reachable 0 := .root (show 0 ∈ _ by
        rw [show (@restructure Rat _ Circular.still default (HostNode.toSources shelf)).roots = [0]
          by cbv]
        exact mem_cons_self)
  obtain ⟨s, hs, hslot⟩ := Option.map_eq_some_iff.mp hslot
  obtain ⟨hchildren, hlayout⟩ := Prod.mk.inj hslot
  obtain ⟨l, hl, hflow⟩ := Option.map_eq_some_iff.mp hlayout
  simp only [Prod.mk.injEq] at hflow
  obtain ⟨horigin, hrow, hspacing⟩ := hflow
  have hkind : s.element.kind = .container l := by
    cases hk : s.element.kind <;> simp_all [Kind.layout?]
  refine ⟨_, rfl, hreach, s, l, hs, hchildren, hkind, horigin, hrow, hspacing, ?_⟩
  exact @normalize_confirms Rat _ Circular.still _ default .empty shelf _ rfl
    ⟨⟨by cbv, ⟨by cbv, trivial⟩, ⟨by cbv, trivial⟩, trivial⟩, trivial⟩ 0 s l hreach hs hkind
    horigin (by rw [hrow]; rfl)

end Artboard
