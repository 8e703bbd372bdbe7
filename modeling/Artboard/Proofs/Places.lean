import Artboard.Proofs.Correspondence
import Artboard.Proofs.Walking

/-!
# Where things stand

Survivors are followed to the elements they become together with the places they have, reckoned over
all they lie in. A rewrite that takes an element out of a space or puts it into one moves it by the
offset between the two, so its place is the same before and after. Where no flow was inferred the
elements also stay in the order their sources had.
-/

open List

namespace Artboard

/-- Where something is, told by what it lies in and by its own place in that. Whether it lies in
something or was moved by that one's place is the same. -/
structure Reckoning (α : Type) [Scalar α] (M : Type) where
  within : M → Geometry α → M
  within_shift : ∀ m g h, within m (h.shift g.x g.y) = within (within m g) h
  within_unshift : ∀ m g h, within (within m g) (h.shift (-g.x) (-g.y)) = within m h

def Point.within {α : Type} [Scalar α] (p : Point α) (g : Geometry α) : Point α :=
  ⟨p.x + g.x, p.y + g.y⟩

namespace Reckoning

def sum : Reckoning Rat (Point Rat) where
  within := Point.within
  within_shift m g h := by
    simp only [Point.within, Geometry.shift, Rat.add_comm h.x, Rat.add_comm h.y, Rat.add_assoc]
  within_unshift m g h := by
    simp only [Point.within, Geometry.shift, Point.mk.injEq]
    constructor <;> grind

def blind (α : Type) [Scalar α] : Reckoning α Unit where
  within m _ := m
  within_shift _ _ _ := rfl
  within_unshift _ _ _ := rfl

end Reckoning

/-! ## Places of survivors and of elements -/

namespace Source

variable {α M : Type} [Scalar α] (within : M → Geometry α → M)

mutual

def places (m : M) : Source α → List (M × Source α)
  | node d cs =>
    if !d.isKept then []
    else if d.kind = .group then placesOfAll (within m d.props.geometry) cs
    else
      (within m d.props.geometry, node d cs) ::
        if d.kind.hasChildren then placesOfAll (within m d.props.geometry) cs else []

def placesOfAll (m : M) : List (Source α) → List (M × Source α)
  | [] => []
  | s :: ss => places m s ++ placesOfAll m ss

end

theorem placesOfAll_cons (m : M) (s : Source α) (ss : List (Source α)) :
    placesOfAll within m (s :: ss) = placesOfAll within m [s] ++ placesOfAll within m ss := by
  simp only [placesOfAll, append_nil]

variable {d : Draft α} (cs : List (Source α))

theorem placesOfAll_of_not_isKept (h : d.isKept = false) (m : M) :
    placesOfAll within m [node d cs] = [] := by
  simp [placesOfAll, places, h]

theorem placesOfAll_leaf (h : d.isKept = true) (hk : d.kind.hasChildren = false) (m : M) :
    placesOfAll within m [node d cs] = [(within m d.props.geometry, node d cs)] := by
  have hg : d.kind ≠ .group := by
    intro hg
    rw [hg] at hk
    cases hk
  simp [placesOfAll, places, h, hk, hg]

theorem placesOfAll_container (h : d.isKept = true) (hk : d.kind = .container) (m : M) :
    placesOfAll within m [node d cs] =
      (within m d.props.geometry, node d cs) ::
        placesOfAll within (within m d.props.geometry) cs := by
  simp [placesOfAll, places, h, hk, SourceKind.hasChildren]

theorem placesOfAll_group (h : d.isKept = true) (hk : d.kind = .group) (m : M) :
    placesOfAll within m [node d cs] = placesOfAll within (within m d.props.geometry) cs := by
  simp [placesOfAll, places, h, hk]

mutual

theorem map_places : ∀ (s : Source α) (m : M), (places within m s).map (·.2) = ungrouped [s]
  | node d cs, m => by
    have ih := map_placesOfAll cs (within m d.props.geometry)
    unfold places
    cases hkept : d.isKept with
    | false => rw [ungrouped_of_not_isKept hkept]; rfl
    | true =>
      cases hk : d.kind with
      | container => simpa [SourceKind.hasChildren, ungrouped_container hkept hk] using ih
      | group => simpa [ungrouped_group hkept hk] using ih
      | _ => simp [SourceKind.hasChildren, ungrouped_leaf hkept (by rw [hk]; rfl)]

theorem map_placesOfAll : ∀ (ss : List (Source α)) (m : M),
    (placesOfAll within m ss).map (·.2) = ungrouped ss
  | [], _ => rfl
  | s :: ss, m => by
    rw [placesOfAll, map_append, map_places s m, map_placesOfAll ss m, ← ungrouped_cons]

end

end Source

namespace Figure

variable {α M : Type} (within : M → Geometry α → M)

mutual

def places (m : M) : Figure α → List (M × Element α)
  | node e cs =>
    if e.kind.isGroup then placesOfAll (within m e.props.geometry) cs
    else (within m e.props.geometry, e) :: placesOfAll (within m e.props.geometry) cs

def placesOfAll (m : M) : List (Figure α) → List (M × Element α)
  | [] => []
  | f :: fs => places m f ++ placesOfAll m fs

end

theorem placesOfAll_eq_flatMap (m : M) :
    ∀ fs : List (Figure α), placesOfAll within m fs = fs.flatMap (places within m)
  | [] => rfl
  | f :: fs => by rw [placesOfAll, placesOfAll_eq_flatMap m fs, flatMap_cons]

theorem placesOfAll_append (m : M) (fs gs : List (Figure α)) :
    placesOfAll within m (fs ++ gs) = placesOfAll within m fs ++ placesOfAll within m gs := by
  simp only [placesOfAll_eq_flatMap, flatMap_append]

theorem placesOfAll_perm (m : M) {fs gs : List (Figure α)} (h : fs ~ gs) :
    placesOfAll within m fs ~ placesOfAll within m gs := by
  simp only [placesOfAll_eq_flatMap]
  exact h.flatMap_right _

theorem placesOfAll_node (m : M) {e : Element α} (he : e.kind.isGroup = false)
    (cs : List (Figure α)) :
    placesOfAll within m [node e cs] =
      (within m e.props.geometry, e) :: placesOfAll within (within m e.props.geometry) cs := by
  simp [placesOfAll, places, he]

theorem placesOfAll_group (m : M) {e : Element α} (he : e.kind.isGroup = true)
    (cs : List (Figure α)) :
    placesOfAll within m [node e cs] = placesOfAll within (within m e.props.geometry) cs := by
  simp [placesOfAll, places, he]

end Figure

/-! ## Following survivors -/

theorem exists_forall₂_comp {β γ δ : Type} {R : β → γ → Prop} {S : γ → δ → Prop}
    {T : β → δ → Prop} (hT : ∀ a b c, R a b → S b c → T a c) {steady : Prop} {as : List β}
    {bs bs' : List γ} {cs : List δ} (hR : Forall₂ R as bs') (hperm : bs' ~ bs)
    (hsteady : steady → bs' = bs) (hS : Forall₂ S bs cs) :
    ∃ cs', Forall₂ T as cs' ∧ cs' ~ cs ∧ (steady → cs' = cs) := by
  by_cases hs : steady
  · rw [← hsteady hs] at hS
    exact ⟨cs, forall₂_comp hT hR hS, Perm.refl _, fun _ => rfl⟩
  · obtain ⟨cs', hS', hperm'⟩ := perm_comp_forall₂ hperm hS
    exact ⟨cs', forall₂_comp hT hR hS', hperm', fun hs' => absurd hs' hs⟩

namespace Source

variable {α M : Type} [Scalar α] [Circular α] {hollow : Source α → Prop}

/-- The sources have become the elements, each where it was, in some order and in their own order
if `steady`. -/
def Follows (hollow : Source α → Prop) (steady : Prop) (ps : List (M × Source α))
    (qs : List (M × Element α)) : Prop :=
  ∃ qs', Forall₂ (fun p q => p.1 = q.1 ∧ p.2.Becomes hollow q.2) ps qs' ∧ qs' ~ qs ∧
    (steady → qs' = qs)

/-- The element of the first becomes that of the second, which stands where the first stood. -/
def Carries (hollow : Source α → Prop) (q q' : M × Element α) : Prop :=
  q.1 = q'.1 ∧ Turns hollow q.2 q'.2

theorem carries_refl (q : M × Element α) : Carries hollow q q := ⟨rfl, turns_refl _⟩

namespace Follows

variable {steady : Prop} {ps ps' : List (M × Source α)} {qs qs' : List (M × Element α)}

theorem nil : Follows hollow steady ([] : List (M × Source α)) [] :=
  ⟨[], .nil, Perm.nil, fun _ => rfl⟩

theorem append (h : Follows hollow steady ps qs) (h' : Follows hollow steady ps' qs') :
    Follows hollow steady (ps ++ ps') (qs ++ qs') := by
  obtain ⟨rs, hrs, hperm, hsteady⟩ := h
  obtain ⟨rs', hrs', hperm', hsteady'⟩ := h'
  refine ⟨rs ++ rs', rel_append hrs hrs', hperm.append hperm', fun hs => ?_⟩
  rw [hsteady hs, hsteady' hs]

theorem cons {s : Source α} {e : Element α} (m : M) (hb : s.Becomes hollow e)
    (h : Follows hollow steady ps qs) : Follows hollow steady ((m, s) :: ps) ((m, e) :: qs) := by
  obtain ⟨rs, hrs, hperm, hsteady⟩ := h
  exact ⟨(m, e) :: rs, .cons ⟨rfl, hb⟩ hrs, hperm.cons _, fun hs => by rw [hsteady hs]⟩

theorem mono {steady' : Prop} (hs : steady' → steady) (h : Follows hollow steady ps qs) :
    Follows hollow steady' ps qs := by
  obtain ⟨rs, hrs, hperm, hsteady⟩ := h
  exact ⟨rs, hrs, hperm, fun hs' => hsteady (hs hs')⟩

theorem perm (h : Follows hollow steady ps qs) (hp : qs ~ qs') (hs : steady → qs = qs') :
    Follows hollow steady ps qs' := by
  obtain ⟨rs, hrs, hperm, hsteady⟩ := h
  exact ⟨rs, hrs, hperm.trans hp, fun hs' => (hsteady hs').trans (hs hs')⟩

theorem carry (h : Follows hollow steady ps qs) (hc : Forall₂ (Carries hollow) qs qs') :
    Follows hollow steady ps qs' := by
  obtain ⟨rs, hrs, hperm, hsteady⟩ := h
  exact exists_forall₂_comp (fun _ _ _ hpq hqq => ⟨hpq.1.trans hqq.1, hqq.2 _ hpq.2⟩)
    hrs hperm hsteady hc

end Follows

end Source

/-! ## Rewrites keep survivors in their places -/

namespace Element

variable {α : Type}

def IsUnsorted (e : Element α) : Prop :=
  ∀ l, e.kind = .container l → l.origin = .inferred → l.flow.isFlow = false

theorem isUnsorted_iff {e : Element α} : e.IsUnsorted ↔
    (e.kind.layout?.all fun l => l.origin = .explicit || !l.flow.isFlow) = true := by
  unfold IsUnsorted
  cases e.kind with
  | container l => cases ho : l.origin <;> simp [Kind.layout?, ho]
  | _ => simp [Kind.layout?]

instance (e : Element α) : Decidable e.IsUnsorted := decidable_of_iff' _ isUnsorted_iff

theorem isUnsorted_settle [Scalar α] (f : Flow) (e : Element α) :
    (e.settle f).IsUnsorted ↔ e.IsUnsorted := by
  rcases container_or_settle_eq f e with ⟨l, hl⟩ | he
  · simp [IsUnsorted, settle_of_container f hl, hl, settledLayout]
  · rw [he]

end Element

namespace Figure

open Source

variable {α M : Type} [Scalar α] [Circular α] {hollow : Source α → Prop} {o : NormalizeOptions α}

theorem carries_map {within : M → Geometry α → M} {m m' : M} (g : Element α → Element α)
    (hg : ∀ e, (g e).kind.isGroup = e.kind.isGroup)
    (hplace : ∀ e, within m' (g e).props.geometry = within m e.props.geometry)
    (hturn : ∀ e, Turns hollow e (g e)) (fs : List (Figure α)) :
    Forall₂ (Carries hollow) (placesOfAll within m fs)
      (placesOfAll within m' (fs.map (mapElement g))) := by
  have hrefl : ∀ qs : List (M × Element α), Forall₂ (Carries hollow) qs qs := fun qs =>
    forall₂_same.mpr fun q _ => carries_refl q
  induction fs with
  | nil => exact .nil
  | cons f fs ih =>
    obtain ⟨e, cs⟩ := f
    simp only [map_cons, mapElement, placesOfAll, places, hg, hplace]
    refine rel_append ?_ ih
    split
    · exact hrefl _
    · exact .cons ⟨rfl, hturn e⟩ (hrefl _)

theorem carries_settle (within : M → Geometry α → M) (m : M) (f : Flow) (fs : List (Figure α)) :
    Forall₂ (Carries hollow) (placesOfAll within m fs)
      (placesOfAll within m (fs.map (mapElement (Element.settle f)))) :=
  carries_map _ (isGroup_settle f) (fun e => by rw [Element.props_settle])
    (fun _ _ h => h.settle f) fs

theorem carries_shift {within : M → Geometry α → M} {m m' : M} {dx dy : α}
    (h : ∀ g, within m' (g.shift dx dy) = within m g) (fs : List (Figure α)) :
    Forall₂ (Carries hollow) (placesOfAll within m fs)
      (placesOfAll within m' (fs.map fun f => f.shift dx dy)) :=
  carries_map (fun e => e.shift dx dy) (fun _ => rfl) (fun e => h e.props.geometry)
    (fun _ _ hb => hb.shift dx dy) fs

omit [Circular α] in
theorem inOrder_eq_tail {b : Figure α} {cs : List (Figure α)} {i : Inference α}
    (hi : i = inference o cs) (hb : background? cs i = some b) (hfree : i.flow.isFlow = false) :
    inOrder cs i.order = cs.tail := by
  have hpicks := Inference.picks_of_free o.tolerances item cs hi hfree
  have hsome : i.promoted ≠ none := by
    intro hnone
    rw [background?, hnone] at hb
    cases hb
  rwa [if_neg hsome] at hpicks

omit [Circular α] in
theorem everyOf_unsorted_of_promote {b : Figure α} {rest : List (Figure α)} {i : Inference α}
    (hfit : Every (IsFit o) b) (hprom : b.isPromotable = true)
    (horder : inOrder (b :: rest) i.order ~ rest)
    (h : Every (fun e _ => e.IsUnsorted) (promote (b :: rest) i b)) :
    EveryOf (fun e _ => e.IsUnsorted) (b :: rest) := by
  obtain ⟨hk, hcs⟩ := kind_of_isPromotable hfit hprom
  have hmoved := ((every_settled_iff Element.isUnsorted_settle).mp h).2
  have hrest := (everyOf_shift_iff (fun _ => Iff.rfl) _).mp hmoved
  refine ⟨every_iff.mpr ⟨fun l hl => ?_, hcs ▸ trivial⟩, (everyOf_perm horder).mp hrest⟩
  rw [hk] at hl
  cases hl

variable (r : Reckoning α M) {ps : List (M × Source α)} {m : M}

theorem follows_promote {b : Figure α} {rest : List (Figure α)} {i : Inference α}
    (hi : i = inference o (b :: rest))
    (h : Follows hollow (EveryOf (fun e _ => e.IsUnsorted) (b :: rest)) ps
      (placesOfAll r.within m (b :: rest)))
    (hfit : Every (IsFit o) b) (hprom : b.isPromotable = true)
    (hb : background? (b :: rest) i = some b) (horder : inOrder (b :: rest) i.order ~ rest) :
    Follows hollow (Every (fun e _ => e.IsUnsorted) (promote (b :: rest) i b)) ps
      (placesOfAll r.within m [promote (b :: rest) i b]) := by
  have hsteady := everyOf_unsorted_of_promote (o := o) hfit hprom horder
  obtain ⟨hk, hcs⟩ := kind_of_isPromotable hfit hprom
  obtain ⟨e, cs⟩ := b
  simp only [element_node] at hk
  simp only [children_node] at hcs
  subst hcs
  have hleft : placesOfAll r.within m (node e [] :: rest) =
      (r.within m e.props.geometry, e) :: placesOfAll r.within m rest := by
    simp [placesOfAll, places, hk, Kind.isGroup]
  rw [hleft] at h
  -- siblings are only put into another order if the container lays them out in a flow
  have hkeep : Every (fun e _ => e.IsUnsorted) (promote (node e [] :: rest) i (node e [])) →
      placesOfAll r.within m rest =
        placesOfAll r.within m (inOrder (node e [] :: rest) i.order) := by
    intro hun
    rw [inOrder_eq_tail hi hb (((every_settled_iff Element.isUnsorted_settle).mp hun).1 _ rfl rfl)]
    rfl
  have hordered := (h.mono hsteady).perm ((placesOfAll_perm r.within m horder).symm.cons _)
    fun hs => by rw [hkeep hs]
  -- the background's element goes over to the container, and its siblings stay where they were
  have hmoved : Follows hollow _ ps
      ((r.within m e.props.geometry, Scene.promotedElement e i) ::
        placesOfAll r.within (r.within m e.props.geometry)
          ((inOrder (node e [] :: rest) i.order).map fun f =>
            f.shift (-e.props.geometry.x) (-e.props.geometry.y))) :=
    hordered.carry (.cons ⟨rfl, fun s hs => hs.promoted hk i⟩
      (carries_shift (r.within_unshift m e.props.geometry) _))
  rw [promote, settled, placesOfAll_node _ _ rfl, element_node]
  exact hmoved.carry (.cons (carries_refl _) (carries_settle r.within _ i.flow _))

theorem follows_container {d : Draft α} {cs : List (Source α)} {declared : Bool} {f : Figure α}
    {l : ContainerLayout α} (he : d.snapshot = some ⟨.container l, d.snapshotProps⟩)
    (ih : Follows IsHollow (EveryOf (fun e _ => e.IsUnsorted) (figures o cs)) ps
      (placesOfAll r.within (r.within m d.props.geometry) (figures o cs)))
    (hstep : ContainerStep o declared ⟨.container l, d.snapshotProps⟩ l (figures o cs) f) :
    Follows IsHollow (Every (fun e _ => e.IsUnsorted) f)
      ((r.within m d.props.geometry, .node d cs) :: ps) (placesOfAll r.within m [f]) := by
  have hfit := isFit_figures o cs
  have hemptied : figures o cs = [] → _ := becomes_emptied he
  have hbecomes : figures o cs ≠ [] → _ := becomes_container he
  generalize figures o cs = gs at *
  cases hstep with
  | empty hcs =>
    subst hcs
    exact (ih.mono fun _ => trivial).cons _ (hemptied rfl)
  | kept hne =>
    rw [every_settled_iff Element.isUnsorted_settle, settled, placesOfAll_node _ _ rfl]
    exact ((ih.mono And.right).carry (carries_settle r.within _ _ _)).cons _ (hbecomes hne l)
  | flowing hne _ _ _ hflow horder =>
    rw [every_settled_iff Element.isUnsorted_settle, everyOf_perm horder, settled,
      placesOfAll_node _ _ rfl]
    refine .cons _ (hbecomes hne _) (.carry (.perm (ih.mono And.right)
      (placesOfAll_perm r.within _ horder).symm fun hun => ?_) (carries_settle r.within _ _ _))
    -- a flow reorders its children, so their order does not count any longer
    exact absurd (hun.1 _ rfl rfl) (by simp [hflow])
  | promoted b rest hcs hrest _ _ hprom hb horder =>
    subst hcs
    rw [every_settled_iff Element.isUnsorted_settle, everyOf_singleton, settled,
      placesOfAll_node _ _ rfl]
    have hpromoted := follows_promote r rfl ih hfit.1 hprom hb horder
    exact ((hpromoted.mono And.right).carry (carries_settle r.within _ _ _)).cons _
      (hbecomes (cons_ne_nil _ _) _)

theorem follows_group {e : Element α} {gs : List (Figure α)} {f? : Option (Figure α)}
    (he : e.kind = .group) (hfit : EveryOf (IsFit o) gs)
    (ih : Follows hollow (EveryOf (fun e _ => e.IsUnsorted) gs) ps
      (placesOfAll r.within (r.within m e.props.geometry) gs))
    (hstep : GroupStep o e gs f?) :
    Follows hollow (EveryOf (fun e _ => e.IsUnsorted) f?.toList) ps
      (placesOfAll r.within m f?.toList) := by
  -- what takes the group's place is moved by the place of the group
  have hout : ∀ f : Figure α, Follows hollow (Every (fun e _ => e.IsUnsorted) f) ps
      (placesOfAll r.within (r.within m e.props.geometry) [f]) →
        Follows hollow (EveryOf (fun e _ => e.IsUnsorted)
          [f.shift e.props.geometry.x e.props.geometry.y]) ps
            (placesOfAll r.within m [f.shift e.props.geometry.x e.props.geometry.y]) := by
    intro f hf
    have hsame : Every (fun e _ => e.IsUnsorted)
        (f.shift e.props.geometry.x e.props.geometry.y) ↔ Every (fun e _ => e.IsUnsorted) f :=
      every_mapElement_iff (g := fun e : Element α => e.shift _ _) fun _ _ => Iff.rfl
    rw [everyOf_singleton, hsame]
    exact hf.carry (carries_shift (r.within_shift m e.props.geometry) [f])
  cases hstep with
  | empty hcs =>
    subst hcs
    exact ih
  | single f hcs =>
    subst hcs
    rw [everyOf_singleton] at ih
    exact hout f ih
  | promoted b rest hcs hrest _ hprom hb horder =>
    subst hcs
    exact hout _ (follows_promote r rfl ih hfit.1 hprom hb horder)
  | kept =>
    rw [Option.toList_some, everyOf_singleton, placesOfAll_group _ _ (by rw [he]; rfl)]
    exact ih.mono And.right

end Figure

namespace Source

variable {α M : Type} [Scalar α] [Circular α] (r : Reckoning α M) (o : NormalizeOptions α)

theorem follows_induction : Induction o fun ss fs => ∀ m,
    Follows IsHollow (Figure.EveryOf (fun e _ => e.IsUnsorted) fs) (placesOfAll r.within m ss)
      (Figure.placesOfAll r.within m fs) where
  nil := fun _ => .nil
  append := fun hs hss m => by
    rw [placesOfAll_cons, Figure.placesOfAll_append, Figure.everyOf_append]
    exact ((hs m).mono And.left).append ((hss m).mono And.right)
  omitted := fun hkept m => by
    rw [placesOfAll_of_not_isKept _ _ hkept]
    exact .nil
  leaf := fun {d cs e} hkept hk he m => by
    have hsame := Kind.of_isParent_eq_false ((Draft.isParent_snapshot he).trans hk)
    rw [placesOfAll_leaf _ _ hkept hk, Figure.placesOfAll_node _ _ hsame.2,
      Draft.geometry_snapshot he]
    exact .cons _ ⟨e, he, Props.agreeButPlace_refl _, .same hsame.1⟩ .nil
  container := fun {d cs f} hkept hk ih hstep m => by
    rw [placesOfAll_container _ _ hkept hk, Figure.everyOf_singleton]
    exact Figure.follows_container r (Draft.snapshot_container hk) (ih _) hstep
  group := fun {d cs f?} hkept hk ih hstep m => by
    rw [placesOfAll_group _ _ hkept hk]
    exact Figure.follows_group r rfl (Figure.isFit_figures o cs) (ih _) hstep

end Source

end Artboard
