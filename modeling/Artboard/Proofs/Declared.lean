import Artboard.Proofs.PaintOrder
import Artboard.Proofs.Vanishing

/-!
# Declared layouts

A container that declares a row or a column comes out of a run with that layout and with what its
children are made into, in their order. All that a run may change of the layout is that the container
no longer hugs where it fills the parent it comes to lie in.
-/

open List

namespace Artboard

namespace Element

variable {α : Type} [Scalar α]

/-- A layout as it is below a parent with this flow, if there is a parent. -/
def layoutIn (parent : Option Flow) (e : Element α) (l : ContainerLayout α) : ContainerLayout α :=
  match parent with
  | none => l
  | some f => e.settledLayout f l

end Element

/-! ## Figures where they stand -/

namespace Figure

variable {α : Type}

mutual

def spots (parent : Option Flow) : Figure α → List (Option Flow × Figure α)
  | node e cs =>
    if e.kind.isGroup then spotsOfAll (some e.flow) cs
    else (parent, node e cs) :: spotsOfAll (some e.flow) cs

def spotsOfAll (parent : Option Flow) : List (Figure α) → List (Option Flow × Figure α)
  | [] => []
  | f :: fs => spots parent f ++ spotsOfAll parent fs

end

theorem spotsOfAll_eq_flatMap (parent : Option Flow) :
    ∀ fs : List (Figure α), spotsOfAll parent fs = fs.flatMap (spots parent)
  | [] => rfl
  | f :: fs => by rw [spotsOfAll, spotsOfAll_eq_flatMap parent fs, flatMap_cons]

theorem spotsOfAll_append (parent : Option Flow) (fs gs : List (Figure α)) :
    spotsOfAll parent (fs ++ gs) = spotsOfAll parent fs ++ spotsOfAll parent gs := by
  simp only [spotsOfAll_eq_flatMap, flatMap_append]

theorem spotsOfAll_perm (parent : Option Flow) {fs gs : List (Figure α)} (h : fs ~ gs) :
    spotsOfAll parent fs ~ spotsOfAll parent gs := by
  simp only [spotsOfAll_eq_flatMap]
  exact h.flatMap_right _

theorem spotsOfAll_node (parent : Option Flow) {e : Element α} (he : e.kind.isGroup = false)
    (cs : List (Figure α)) :
    spotsOfAll parent [node e cs] = (parent, node e cs) :: spotsOfAll (some e.flow) cs := by
  simp [spotsOfAll, spots, he]

theorem spotsOfAll_group (parent : Option Flow) {e : Element α} (he : e.kind.isGroup = true)
    (cs : List (Figure α)) : spotsOfAll parent [node e cs] = spotsOfAll (some e.flow) cs := by
  simp [spotsOfAll, spots, he]

theorem forall₂_spotsOfAll_map {R : Option Flow × Figure α → Option Flow × Figure α → Prop}
    (hR : ∀ q, R q q) {parent parent' : Option Flow} (g : Element α → Element α)
    (hgroup : ∀ e, (g e).kind.isGroup = e.kind.isGroup) (hflow : ∀ e, (g e).flow = e.flow)
    (hg : ∀ f, R (parent, f) (parent', f.mapElement g)) (fs : List (Figure α)) :
    Forall₂ R (spotsOfAll parent fs) (spotsOfAll parent' (fs.map (mapElement g))) := by
  have hrefl : ∀ qs, Forall₂ R qs qs := fun qs => forall₂_same.mpr fun q _ => hR q
  induction fs with
  | nil => exact .nil
  | cons f fs ih =>
    obtain ⟨e, cs⟩ := f
    simp only [map_cons, mapElement, spotsOfAll, spots, hgroup, hflow]
    refine rel_append ?_ ih
    split
    · exact hrefl _
    · exact .cons (hg (node e cs)) (hrefl _)

end Figure

/-! ## What a declaring container becomes -/

namespace Source

open Figure

variable {α : Type} [Scalar α] [Circular α] {o : NormalizeOptions α}

/-- What the source has become, and where. If it declares a layout and does not come to nothing but
itself, it has that layout and holds what its children are made into. -/
structure Settles (o : NormalizeOptions α) (s : Source α) (q : Option Flow × Figure α) : Prop where
  becomes : s.Becomes IsHollow q.2.element
  declared : ∀ l, s.draft.kind = .container → s.draft.declared = some l → figures o s.children ≠ [] →
    q.2.element.kind = .container (q.2.element.layoutIn q.1 l) ∧
      q.2.children = (figures o s.children).map (mapElement (Element.settle l.flow))

def Resettles (o : NormalizeOptions α) (q q' : Option Flow × Figure α) : Prop :=
  ∀ s : Source α, s.Settles o q → s.Settles o q'

theorem resettles_refl (q : Option Flow × Figure α) : Resettles o q q := fun _ h => h

theorem resettles_shift (dx dy : α) (f : Figure α) :
    Resettles o (none, f) (none, f.shift dx dy) := by
  intro s hs
  refine ⟨?_, fun l hk hl hne => ?_⟩
  · rw [element_shift]
    exact hs.becomes.shift dx dy
  · rw [element_shift, children_shift]
    exact hs.declared l hk hl hne

theorem resettles_settle (g : Flow) (f : Figure α) :
    Resettles o (none, f) (some g, f.mapElement (Element.settle g)) := by
  intro s hs
  refine ⟨?_, fun l hk hl hne => ?_⟩
  · rw [element_mapElement]
    exact hs.becomes.settle g
  · obtain ⟨hkind, hchildren⟩ := hs.declared l hk hl hne
    rw [element_mapElement, children_mapElement, Element.settle_of_container g hkind]
    exact ⟨rfl, hchildren⟩

theorem resettles_promoted {e : Element α} (he : e.kind = .rectangle) (i : Inference α)
    (cs : List (Figure α)) :
    Resettles o (none, .node e []) (none, .node (Scene.promotedElement e i) cs) := by
  intro s hs
  refine ⟨hs.becomes.promoted he i, fun l hk hl hne => ?_⟩
  cases he.symm.trans (hs.declared l hk hl hne).1

end Source

/-! ## Rewrites respect declared layouts -/

namespace Figure

open Source

variable {α : Type} [Scalar α] [Circular α] {o : NormalizeOptions α} {ss : List (Source α)}

omit [Circular α] in
theorem flow_settle (f : Flow) (e : Element α) : (e.settle f).flow = e.flow := by
  rcases Element.container_or_settle_eq f e with ⟨l, hl⟩ | he
  · rw [Element.settle_of_container f hl, Element.flow, Element.flow, hl]
    rfl
  · rw [he]

theorem resettles_spots_settle (g : Flow) (fs : List (Figure α)) :
    Forall₂ (Resettles o) (spotsOfAll none fs)
      (spotsOfAll (some g) (fs.map (mapElement (Element.settle g)))) :=
  forall₂_spotsOfAll_map resettles_refl _ (isGroup_settle g) (flow_settle g) (resettles_settle g) fs

theorem resettles_spots_shift (dx dy : α) (fs : List (Figure α)) :
    Forall₂ (Resettles o) (spotsOfAll none fs) (spotsOfAll none (fs.map fun f => f.shift dx dy)) :=
  forall₂_spotsOfAll_map resettles_refl (fun e => e.shift dx dy) (fun _ => rfl) (fun _ => rfl)
    (resettles_shift dx dy) fs

theorem resettles_spots_group (fs : List (Figure α)) :
    Forall₂ (Resettles o) (spotsOfAll none fs) (spotsOfAll (some .free) fs) := by
  have hsame : fs.map (mapElement (Element.settle .free)) = fs :=
    (map_congr_left fun f _ =>
      mapElement_eq_self (Element.settle_of_isFlow_eq_false rfl f.element)).trans fs.map_id
  have hsettled := resettles_spots_settle (o := o) .free fs
  rwa [hsame] at hsettled

theorem pairs_turn {fs gs : List (Option Flow × Figure α)} (h : Pairs (Settles o) ss fs)
    (hturn : Forall₂ (Resettles o) fs gs) : Pairs (Settles o) ss gs :=
  h.comp (fun _ _ _ hs hturn => hturn _ hs) hturn

theorem pairs_promote {b : Figure α} {rest : List (Figure α)} {i : Inference α}
    (h : Pairs (Settles o) ss (spotsOfAll none (b :: rest))) (hfit : Every (IsFit o) b)
    (hprom : b.isPromotable = true) (horder : inOrder (b :: rest) i.order ~ rest) :
    Pairs (Settles o) ss (spotsOfAll none [promote (b :: rest) i b]) := by
  obtain ⟨hk, hcs⟩ := kind_of_isPromotable hfit hprom
  obtain ⟨e, cs⟩ := b
  simp only [element_node] at hk
  simp only [children_node] at hcs
  subst hcs
  have hleft : spotsOfAll none (node e [] :: rest) = (none, node e []) :: spotsOfAll none rest := by
    rw [spotsOfAll, spots, hk]
    rfl
  rw [hleft] at h
  rw [promote, settled, spotsOfAll_node _ rfl]
  have hordered := h.perm ((spotsOfAll_perm none horder).symm.cons _)
  have hmoved := pairs_turn hordered (.cons (resettles_refl _)
    (resettles_spots_shift (-e.props.geometry.x) (-e.props.geometry.y) _))
  exact pairs_turn hmoved (.cons (resettles_promoted hk i _) (resettles_spots_settle i.flow _))

variable {d : Draft α} {cs : List (Source α)}

theorem settles_undeclared (hd : d.declared = none) {q : Option Flow × Figure α}
    (h : (Source.node d cs).Becomes IsHollow q.2.element) : (Source.node d cs).Settles o q :=
  ⟨h, fun _ _ hl _ => absurd (hd.symm.trans hl) nofun⟩

theorem pairs_container {l : ContainerLayout α} {f : Figure α}
    (he : d.snapshot = some ⟨.container l, d.snapshotProps⟩)
    (hl : l = d.declared.getD (.freeForm d.clips))
    (ih : Pairs (Settles o) (Source.ungrouped cs) (spotsOfAll none (figures o cs)))
    (hstep : ContainerStep o d.declared.isSome ⟨.container l, d.snapshotProps⟩ l (figures o cs) f) :
    Pairs (Settles o) (.node d cs :: Source.ungrouped cs) (spotsOfAll none [f]) := by
  have hfit := isFit_figures o cs
  have hbecomes : figures o cs ≠ [] → _ := becomes_container he
  have hnone : d.declared.isSome = false → d.declared = none :=
    Option.not_isSome_iff_eq_none.mp ∘ Bool.eq_false_iff.mp
  cases hstep with
  | empty hcs =>
    rw [spotsOfAll_node _ rfl]
    refine .cons ⟨becomes_emptied he hcs, fun _ _ _ hne => absurd hcs hne⟩ ?_
    rwa [hcs] at ih
  | kept hne =>
    rw [settled, spotsOfAll_node _ rfl]
    refine .cons ⟨hbecomes hne l, fun l' _ hl' _ => ?_⟩ (pairs_turn ih (resettles_spots_settle _ _))
    have hl' : d.declared = some l' := hl'
    rw [hl'] at hl
    cases hl
    exact ⟨rfl, rfl⟩
  -- a flow is inferred, and a background promoted, only where nothing is declared
  | flowing hne hd _ _ _ horder =>
    rw [settled, spotsOfAll_node _ rfl]
    exact .cons (settles_undeclared (hnone hd) (hbecomes hne _))
      (pairs_turn (ih.perm (spotsOfAll_perm none horder).symm) (resettles_spots_settle _ _))
  | promoted b rest hcs hrest hd _ hprom _ horder =>
    rw [settled, spotsOfAll_node _ rfl]
    rw [hcs] at ih hfit horder ⊢
    exact .cons (settles_undeclared (hnone hd) (hbecomes (by simp [hcs]) _))
      (pairs_turn (pairs_promote ih hfit.1 hprom horder) (resettles_spots_settle _ _))

theorem pairs_group {e : Element α} {gs : List (Figure α)} {r : Option (Figure α)}
    (he : e.kind = .group) (hfit : EveryOf (IsFit o) gs)
    (ih : Pairs (Settles o) ss (spotsOfAll none gs)) (hstep : GroupStep o e gs r) :
    Pairs (Settles o) ss (spotsOfAll none r.toList) := by
  cases hstep with
  | empty hcs =>
    subst hcs
    exact ih
  | single f hcs =>
    subst hcs
    exact pairs_turn ih (resettles_spots_shift _ _ [f])
  | promoted b rest hcs hrest _ hprom _ horder =>
    subst hcs
    exact pairs_turn (pairs_promote ih hfit.1 hprom horder) (resettles_spots_shift _ _ [_])
  | kept =>
    have hflow : e.flow = .free := by rw [Element.flow, he]; rfl
    rw [Option.toList_some, spotsOfAll_group _ (by rw [he]; rfl), hflow]
    exact pairs_turn ih (resettles_spots_group gs)

end Figure

namespace Source

variable {α : Type} [Scalar α] [Circular α] (o : NormalizeOptions α)

theorem settles_induction :
    Induction o fun ss fs => Pairs (Settles o) (ungrouped ss) (Figure.spotsOfAll none fs) where
  nil := .nil
  append := fun hs hss => by
    rw [ungrouped_cons, Figure.spotsOfAll_append]
    exact hs.append hss
  omitted := fun hkept => by
    rw [ungrouped_of_not_isKept hkept]
    exact .nil
  leaf := fun {d cs e} hkept hk he => by
    have hsame := Kind.of_isParent_eq_false ((Draft.isParent_snapshot he).trans hk)
    rw [ungrouped_leaf hkept hk, Figure.spotsOfAll_node _ hsame.2]
    refine .cons ⟨⟨e, he, Props.agreeButPlace_refl _, .same hsame.1⟩, fun l hc _ _ => ?_⟩ .nil
    -- only a container declares a layout, and a leaf is none
    have hc : d.kind = .container := hc
    rw [hc] at hk
    cases hk
  container := fun {d cs f} hkept hk ih hstep => by
    rw [ungrouped_container hkept hk]
    exact Figure.pairs_container (Draft.snapshot_container hk) rfl ih hstep
  group := fun {d cs r} hkept hk ih hstep => by
    rw [ungrouped_group hkept hk]
    exact Figure.pairs_group rfl (Figure.isFit_figures o cs) ih hstep

end Source

/-! ## The arena of a run -/

namespace Source

variable {α : Type} [Scalar α] [Circular α] (o : NormalizeOptions α)

theorem figure?_eq_none_iff (s : Source α) : figure? o s = none ↔ s.Vanishes := by
  have hone := figures_eq_nil_iff o [s]
  rwa [figures, figures, append_nil, Option.toList_eq_nil_iff, forall_mem_singleton] at hone

theorem forall₂_figures (ss : List (Source α)) :
    Forall₂ (fun s f => figure? o s = some f) (ss.filter fun s => ¬s.Vanishes) (figures o ss) := by
  induction ss with
  | nil => exact .nil
  | cons s ss ih =>
    rw [figures]
    cases hs : figure? o s with
    | none =>
      have hv := (figure?_eq_none_iff o s).mp hs
      rw [filter_cons_of_neg (by simpa using hv)]
      exact ih
    | some f =>
      have hv : ¬s.Vanishes := fun hv => by
        rw [(figure?_eq_none_iff o s).mpr hv] at hs
        cases hs
      rw [filter_cons_of_pos (by simpa using hv)]
      exact .cons hs ih

end Source

namespace Arena

section
variable {α : Type} [Scalar α] [Circular α]

/-- The children of a source have become what a slot lists, in their order and those apart that
vanish: each what it becomes in a selection of its own, settled under the flow of the slot. -/
def ListsChildren (a : Arena α) (o : NormalizeOptions α) (s : Source α) (t : Slot α) : Prop :=
  Forall₂ (fun c j => ∃ f, (restructure o [c]).UnfoldsAll (restructure o [c]).roots [f] ∧
      a.Unfolds j (f.mapElement (Element.settle t.element.flow)))
    (s.children.filter fun c => ¬c.Vanishes) t.children

/-- The survivors that are no groups correspond one to one to the reachable slots that are no groups,
and have become what these hold. A container that declares a layout, and of which a child does not
vanish, has that layout below the parent it has come to lie in, and lists its children. -/
def RespectsDeclared (a : Arena α) (o : NormalizeOptions α) (ss : List (Source α)) : Prop :=
  ∃ is : List Nat, is.Nodup ∧
    (∀ i, i ∈ is ↔ a.Reachable i ∧ ∃ t, a.get? i = some t ∧ t.element.kind.isGroup = false) ∧
    Forall₂ (fun s i => ∃ t parent, a.get? i = some t ∧ a.parentFlow t.parent = .ok parent ∧
        s.Becomes Source.IsHollow t.element ∧
        ∀ l, s.draft.kind = .container → s.draft.declared = some l →
          (∃ c ∈ s.children, ¬c.Vanishes) →
            t.element.kind = .container (t.element.layoutIn parent l) ∧ a.ListsChildren o s t)
      (Source.ungrouped ss) is

end

variable {α : Type} {a : Arena α}

mutual

theorem forall₂_spots (p : Option Nat) (parent : Option Flow) : ∀ (s : Scene α),
    (∀ {i t}, (i, t) ∈ Scene.slots p s → a.get? i = some t) → a.parentFlow p = .ok parent →
      Forall₂ (fun q i => ∃ t, a.get? i = some t ∧ a.parentFlow t.parent = .ok q.1 ∧
        a.Unfolds i q.2) (s.figure.spots parent) (s.numbers.filter a.isUngrouped)
  | .node i e cs, hget, hp => by
    have hi := hget mem_cons_self
    have hunfolds := unfolds_figure p (.node i e cs) hget
    have ih := forall₂_spotsOfAll (some i) (some e.flow) cs (fun hm => hget (mem_cons_of_mem _ hm))
      (parentFlow_some hi)
    have hun : a.isUngrouped i = !e.kind.isGroup := by simp [isUngrouped, hi]
    rw [Scene.figure] at hunfolds ⊢
    rw [Figure.spots, Scene.numbers, filter_cons, hun]
    cases e.kind.isGroup with
    | true => exact ih
    | false => exact .cons ⟨_, hi, hp, hunfolds⟩ ih

theorem forall₂_spotsOfAll (p : Option Nat) (parent : Option Flow) : ∀ (ss : List (Scene α)),
    (∀ {i t}, (i, t) ∈ Scene.slotsOfAll p ss → a.get? i = some t) → a.parentFlow p = .ok parent →
      Forall₂ (fun q i => ∃ t, a.get? i = some t ∧ a.parentFlow t.parent = .ok q.1 ∧
        a.Unfolds i q.2) (Figure.spotsOfAll parent (Scene.figures ss))
        ((Scene.numbersOfAll ss).filter a.isUngrouped)
  | [], _, _ => .nil
  | s :: ss, hget, hp => by
    rw [Scene.figures, Figure.spotsOfAll, Scene.numbersOfAll, filter_append]
    exact rel_append (forall₂_spots p parent s (fun hm => hget (mem_append_left _ hm)) hp)
      (forall₂_spotsOfAll p parent ss (fun hm => hget (mem_append_right _ hm)) hp)

end

variable [Scalar α] [Circular α] {o : NormalizeOptions α}

theorem forall₂_children {g : Element α → Element α} {cs : List (Source α)} {fs : List (Figure α)}
    (h : Forall₂ (fun c f => Source.figure? o c = some f) cs fs) : ∀ {js : List Nat},
      a.UnfoldsAll js (fs.map (Figure.mapElement g)) →
        Forall₂ (fun c j => ∃ f, (restructure o [c]).UnfoldsAll (restructure o [c]).roots [f] ∧
          a.Unfolds j (f.mapElement g)) cs js := by
  induction h with
  | nil =>
    intro js hjs
    cases js with
    | nil => exact .nil
    | cons j js => cases hjs
  | @cons c f cs fs hcf _ ih =>
    intro js hjs
    cases js with
    | nil => cases hjs
    | cons j js =>
      have hone := restructure_unfoldsAll o [c]
      rw [Source.figures, Source.figures, hcf] at hone
      exact .cons ⟨f, hone, hjs.1⟩ (ih hjs.2)

theorem listsChildren_of_settles {s : Source α} {f : Figure α} {i : Nat} {t : Slot α}
    (ht : a.get? i = some t) (hf : a.Unfolds i f)
    (hcs : f.children =
      (Source.figures o s.children).map (Figure.mapElement (Element.settle t.element.flow))) :
    a.ListsChildren o s t := by
  obtain ⟨t', ht', _, hunfolds⟩ := unfolds_iff.mp hf
  cases ht.symm.trans ht'
  rw [hcs] at hunfolds
  exact forall₂_children (Source.forall₂_figures o s.children) hunfolds

omit [Circular α] in
theorem flow_layoutIn (parent : Option Flow) (e : Element α) (l : ContainerLayout α) :
    (e.layoutIn parent l).flow = l.flow := by cases parent <;> rfl

theorem restructure_respectsDeclared (o : NormalizeOptions α) (ss : List (Source α)) :
    (restructure o ss).RespectsDeclared o ss := by
  have hholds := restructure_holds o ss
  have hslots := forall₂_spotsOfAll none none _ hholds.get? rfl
  rw [← hholds.walk_eq, Scene.figures_eq_map, Source.buildAll_figures] at hslots
  have hpairs := (Source.settles_induction o).all ss
  -- sources go to figures, and figures to the slots they are stored in
  obtain ⟨is, his, hperm⟩ := hpairs.comp
    (fun s q i (hs : s.Settles o q) hq => (⟨q, hs, hq⟩ : ∃ q, s.Settles o q ∧
      ∃ t, (restructure o ss).get? i = some t ∧
        (restructure o ss).parentFlow t.parent = .ok q.1 ∧ (restructure o ss).Unfolds i q.2)) hslots
  refine ⟨is, hperm.nodup_iff.mpr hholds.nodup_filter_walk,
    fun i => hperm.mem_iff.trans hholds.mem_filter_walk_iff, his.imp ?_⟩
  rintro s i ⟨⟨parent, f⟩, hs, t, ht, hp, hf⟩
  obtain ⟨t', ht', he, _⟩ := unfolds_iff.mp hf
  cases ht.symm.trans ht'
  refine ⟨t, parent, ht, hp, he ▸ hs.becomes, fun l hk hl hc => ?_⟩
  have hne : Source.figures o s.children ≠ [] := by
    rw [Ne, Source.figures_eq_nil_iff]
    push Not
    exact hc
  obtain ⟨hkind, hchildren⟩ := hs.declared l hk hl hne
  rw [← he] at hkind
  have hflow : t.element.flow = l.flow := by
    rw [Element.flow, hkind]
    exact flow_layoutIn parent t.element l
  rw [← hflow] at hchildren
  exact ⟨hkind, listsChildren_of_settles ht hf hchildren⟩

end Arena

/-! ## What hosts declare -/

/-- The host lays the children of the node out along an axis, and tells this about it. -/
structure HostProps.Declares {α : Type} (p : HostProps α) (l : ContainerLayout α) : Prop where
  mode : p.layoutMode = some .horizontal ∧ l.flow = .row ∧
      l.horizontalSizing = p.primarySizing.toSizing ∧ l.verticalSizing = p.counterSizing.toSizing ∨
    p.layoutMode = some .vertical ∧ l.flow = .column ∧
      l.horizontalSizing = p.counterSizing.toSizing ∧ l.verticalSizing = p.primarySizing.toSizing
  origin : l.origin = .explicit
  padding : l.padding = ⟨p.paddingTop, p.paddingRight, p.paddingBottom, p.paddingLeft⟩
  itemSpacing : l.itemSpacing = p.itemSpacing
  distribution : l.distribution = p.primaryAlign.toDistribution
  alignment : l.alignment = p.counterAlign.toAlignment
  clips : l.clips = p.clipsContent

theorem HostProps.declared_eq_some_iff {α : Type} [Scalar α] {p : HostProps α}
    {l : ContainerLayout α} : p.toDraft.declared = some l ↔ p.Declares l := by
  change p.declared? = some l ↔ _
  unfold declared? declaredFlow?
  constructor
  · intro h
    split at h <;> cases h
    · rename_i hmode
      exact ⟨.inl ⟨hmode, rfl, rfl, rfl⟩, rfl, rfl, rfl, rfl, rfl, rfl⟩
    · rename_i hmode
      exact ⟨.inr ⟨hmode, rfl, rfl, rfl⟩, rfl, rfl, rfl, rfl, rfl, rfl⟩
  · obtain ⟨flow, origin, hs, vs, padding, spacing, distribution, alignment, clips⟩ := l
    rintro ⟨⟨hmode, rfl, rfl, rfl⟩ | ⟨hmode, rfl, rfl, rfl⟩, rfl, rfl, rfl, rfl, rfl, rfl⟩ <;>
      rw [hmode] <;> rfl

/-- **Declared layouts are respected.** What nodes declare is what the host tells about rows and
columns. -/
theorem normalize_respectsDeclared {α : Type} [Scalar α] [Circular α] (o : NormalizeOptions α)
    (c : Context) (selection : List (HostNode α)) {a : Arena α}
    (h : (normalizeInto o c selection).1 = .ok a) :
    a.RespectsDeclared o (HostNode.toSources selection) ∧
      ∀ (p : HostProps α) l, p.toDraft.declared = some l ↔ p.Declares l := by
  obtain ⟨_, rfl⟩ := normalizeSources_eq_ok_iff.mp h
  exact ⟨Arena.restructure_respectsDeclared o _, fun _ _ => HostProps.declared_eq_some_iff⟩

/-- A group around nothing but a column that hugs, in a row that the column fills. -/
def drawer : List (HostNode Float) :=
  [.node { HostProps.plain "1" "row" .frame ⟨0, 0, 100, 40, 0⟩ with layoutMode := some .horizontal }
    [.node (.plain "2" "wrap" .group ⟨10, 10, 50, 30, 0⟩)
      [.node { HostProps.plain "3" "column" .frame ⟨2, 2, 40, 20, 0⟩ with
          layoutMode := some .vertical, primarySizing := .auto, counterSizing := .auto,
          itemSpacing := 4, layoutGrow := 1 }
        [.node (.plain "4" "void" .group ⟨0, 0, 10, 10, 0⟩) [],
          .node (.plain "5" "dot" .ellipse ⟨0, 0, 10, 10, 0⟩) []]]]]

theorem drawer_respectsDeclared : ∃ a, (normalizeInto default .empty drawer).1 = .ok a ∧
    a.RespectsDeclared default (HostNode.toSources drawer) :=
  ⟨_, rfl, (normalize_respectsDeclared default .empty drawer rfl).1⟩

end Artboard
