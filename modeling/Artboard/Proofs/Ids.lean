import Artboard.Proofs.Snapshots

/-!
# Ids of containers

Groups and containers come out of a run with the ids they were checked for, except for the
rectangles it promotes: nothing has looked at the ids of these. A further run succeeds if and only
if every container and every group it visits has an id.
-/

open List

namespace Artboard

/-! ## What a further run visits -/

namespace Arena

variable {α : Type} [Scalar α]

/-- Slots that are reached by way of finite coordinates only. -/
inductive Visited (a : Arena α) : Nat → Slot α → Prop
  | root {i : Nat} {s : Slot α} (hi : i ∈ a.roots) (hs : a.get? i = some s)
      (hp : s.element.props.geometry.isPlaced = true) : Visited a i s
  | child {p c : Nat} {s t : Slot α} (hv : Visited a p s) (hc : c ∈ s.children)
      (ht : a.get? c = some t) (hp : t.element.props.geometry.isPlaced = true) : Visited a c t

end Arena

theorem Draft.id_ne_of_lacksId {α : Type} {d : Draft α} (hk : d.kind.hasChildren = true)
    (h : d.lacksId = false) : d.props.id ≠ "" := by
  intro hid
  simp [lacksId, hk, hid] at h

namespace Figure

variable {α : Type} [Scalar α]

mutual

def IsCleared : Figure α → Prop
  | node e cs => e.props.geometry.isPlaced = true → e.IsNamed ∧ AreCleared cs

def AreCleared : List (Figure α) → Prop
  | [] => True
  | f :: fs => IsCleared f ∧ AreCleared fs

end

theorem isCleared_iff {f : Figure α} : f.IsCleared ↔
    (f.element.props.geometry.isPlaced = true → f.element.IsNamed ∧ AreCleared f.children) := by
  cases f
  rfl

theorem areCleared_iff {fs : List (Figure α)} : AreCleared fs ↔ ∀ f ∈ fs, IsCleared f := by
  induction fs with
  | nil => simp [AreCleared]
  | cons f fs ih => simp [AreCleared, ih]

variable {o : NormalizeOptions α}

mutual

theorem isCleared_iff_survivors : ∀ {f : Figure α},
    Every (fun e cs => IsFit o e cs ∧ e.IsClean) f →
      (f.IsCleared ↔ ∀ s ∈ Source.survivors f.toSource, s.draft.lacksId = false)
  | node e cs, ⟨⟨hfit, hclean⟩, hcs⟩ => by
    have ih := areCleared_iff_survivors hcs
    have hid : (Source.node e.toDraft (toSources cs)).draft.lacksId = false ↔ e.IsNamed :=
      Element.lacksId_toDraft_iff
    rw [IsCleared, toSource, Source.survivors, Element.isKept_toDraft hclean]
    cases e.props.geometry.isPlaced with
    | false => simp
    | true =>
      have hkind : e.toDraft.kind.hasChildren = e.kind.isParent := Element.hasChildren_sourceKind
      cases hp : e.kind.isParent with
      | true => simp [hkind, hp, hid, ih]
      | false =>
        have hnil := hfit.eq_nil hp
        subst hnil
        simp [hkind, hp, hid, AreCleared]

theorem areCleared_iff_survivors : ∀ {fs : List (Figure α)},
    EveryOf (fun e cs => IsFit o e cs ∧ e.IsClean) fs →
      (AreCleared fs ↔ ∀ s ∈ Source.survivorsOfAll (toSources fs), s.draft.lacksId = false)
  | [], _ => by simp [AreCleared, toSources, Source.survivorsOfAll]
  | f :: fs, ⟨hf, hfs⟩ => by
    rw [AreCleared, toSources, Source.survivorsOfAll, forall_mem_append,
      isCleared_iff_survivors hf, areCleared_iff_survivors hfs]

end

end Figure

namespace Arena

open Figure

variable {α : Type} [Scalar α] {a : Arena α} {fs : List (Figure α)}

theorem Visited.get? {i : Nat} {s : Slot α} (h : a.Visited i s) : a.get? i = some s := by
  cases h with
  | root _ hs => exact hs
  | child _ _ ht => exact ht

theorem Visited.exists_isCleared (hunfolds : a.UnfoldsAll a.roots fs) (hfs : AreCleared fs)
    {i : Nat} {s : Slot α} (h : a.Visited i s) :
    s.element.IsNamed ∧ ∃ gs, a.UnfoldsAll s.children gs ∧ AreCleared gs := by
  have step : ∀ {is : List Nat} {fs : List (Figure α)}, a.UnfoldsAll is fs → AreCleared fs →
      ∀ {j t}, j ∈ is → a.get? j = some t → t.element.props.geometry.isPlaced = true →
        t.element.IsNamed ∧ ∃ gs, a.UnfoldsAll t.children gs ∧ AreCleared gs := by
    intro is fs hunfolds hfs j t hj ht hp
    obtain ⟨f, hf, hjf⟩ := exists_unfolds_of_mem hunfolds hj
    obtain ⟨t', ht', he, hcs⟩ := unfolds_iff.mp hjf
    cases ht.symm.trans ht'
    have hclear := isCleared_iff.mp (areCleared_iff.mp hfs f hf)
    rw [← he] at hclear
    exact ⟨(hclear hp).1, _, hcs, (hclear hp).2⟩
  induction h with
  | root hi hs hp => exact step hunfolds hfs hi hs hp
  | child _ hc ht hp ih =>
    obtain ⟨_, gs, hgs, hclear⟩ := ih
    exact step hgs hclear hc ht hp

mutual

theorem isCleared_of_visited (h : ∀ i s, a.Visited i s → s.element.IsNamed) :
    ∀ (f : Figure α) {i : Nat}, a.Unfolds i f →
      (∀ s, a.get? i = some s → s.element.props.geometry.isPlaced = true → a.Visited i s) →
        f.IsCleared
  | .node e cs, i, ⟨s, hs, he, hcs⟩, hi => by
    subst he
    intro hp
    have hv := hi s hs hp
    exact ⟨h i s hv, areCleared_of_visited h cs hcs fun j hj t ht hp => .child hv hj ht hp⟩

theorem areCleared_of_visited (h : ∀ i s, a.Visited i s → s.element.IsNamed) :
    ∀ (fs : List (Figure α)) {is : List Nat}, a.UnfoldsAll is fs →
      (∀ i ∈ is, ∀ s, a.get? i = some s → s.element.props.geometry.isPlaced = true →
        a.Visited i s) → AreCleared fs
  | [], _, _, _ => trivial
  | f :: fs, i :: _, ⟨hf, hfs⟩, hi =>
    ⟨isCleared_of_visited h f hf (hi i mem_cons_self),
      areCleared_of_visited h fs hfs fun j hj => hi j (mem_cons_of_mem _ hj)⟩

end

theorem areCleared_iff_visited (hunfolds : a.UnfoldsAll a.roots fs) :
    AreCleared fs ↔ ∀ i s, a.Visited i s → s.element.IsNamed :=
  ⟨fun hfs _ _ hv => (hv.exists_isCleared hunfolds hfs).1,
    fun h => areCleared_of_visited h fs hunfolds fun _ hi _ hs hp => .root hi hs hp⟩

end Arena

/-! ## Where ids are missing -/

namespace Figure

variable {α : Type} [Scalar α]

theorem isNamed_settle (f : Flow) (e : Element α) : (e.settle f).IsNamed ↔ e.IsNamed := by
  rcases Element.container_or_settle_eq f e with ⟨l, hl⟩ | he
  · simp [Element.IsNamed, Element.settle_of_container f hl, hl, Kind.isParent]
  · rw [he]

variable {o : NormalizeOptions α}

theorem background?_eq_none_of_length (gs : List (Figure α)) (h : gs.length < 2) :
    background? gs (inference o gs) = none := by
  rcases inference_cases o gs with ⟨hb, _⟩ | ⟨b, rest, rfl, hrest, _⟩
  · exact hb
  · cases rest with
    | nil => exact absurd rfl hrest
    | cons => exact absurd h (by simp)

theorem every_promote_iff {b : Figure α} {rest : List (Figure α)} {i : Inference α}
    (hb : Every (IsFit o) b) (hprom : b.isPromotable = true)
    (horder : inOrder (b :: rest) i.order ~ rest) :
    Every (fun e _ => e.IsNamed) (promote (b :: rest) i b) ↔
      b.element.props.id ≠ "" ∧ EveryOf (fun e _ => e.IsNamed) (b :: rest) := by
  obtain ⟨hk, hcs⟩ := kind_of_isPromotable hb hprom
  have hback : Every (fun e _ => e.IsNamed) b := by
    rw [every_iff, hcs]
    exact ⟨fun hp => absurd hp (by rw [hk]; nofun), trivial⟩
  rw [promote, every_settled_iff isNamed_settle]
  refine and_congr ⟨fun h => h rfl, fun h _ => h⟩ ?_
  rw [everyOf_shift_iff fun _ => Iff.rfl, everyOf_perm horder]
  exact ⟨fun h => ⟨hback, h⟩, fun h => h.2⟩

end Figure

namespace Source

open Figure

variable {α : Type} [Scalar α] [Circular α] (o : NormalizeOptions α)

def promoted? (s : Source α) : Option (Figure α) :=
  if o.infer && (s.draft.kind == .group ||
      (s.draft.kind == .container && s.draft.declared.isNone)) then
    background? (figures o s.children) (inference o (figures o s.children))
  else none

def PromotesNamed (s : Source α) : Prop :=
  ∀ b, s.promoted? o = some b → b.element.props.id ≠ ""

variable {o} {s : Source α}

theorem promotesNamed_of_eq_none (h : s.promoted? o = none) : s.PromotesNamed o := by
  intro b hb
  rw [h] at hb
  cases hb

theorem promotesNamed_iff_of_eq_some {b : Figure α} (h : s.promoted? o = some b) :
    s.PromotesNamed o ↔ b.element.props.id ≠ "" := by
  unfold PromotesNamed
  rw [h]
  exact ⟨fun hb => hb b rfl, fun hb _ hb' => Option.some.inj hb' ▸ hb⟩

theorem promoted?_of_no_background
    (h : background? (figures o s.children) (inference o (figures o s.children)) = none) :
    s.promoted? o = none := by
  rw [promoted?, h, ite_self]

theorem promoted?_of_length (h : (figures o s.children).length < 2) : s.promoted? o = none :=
  promoted?_of_no_background (background?_eq_none_of_length _ h)

theorem promotesNamed_of_no_background
    (h : background? (figures o s.children) (inference o (figures o s.children)) = none) :
    s.PromotesNamed o := promotesNamed_of_eq_none (promoted?_of_no_background h)

theorem promotesNamed_of_length (h : (figures o s.children).length < 2) : s.PromotesNamed o :=
  promotesNamed_of_eq_none (promoted?_of_length h)

variable {d : Draft α} {cs : List (Source α)}

theorem promoted?_container (cs : List (Source α)) (hk : d.kind = .container) :
    (node d cs).promoted? o =
      if o.infer && d.declared.isNone then background? (figures o cs) (inference o (figures o cs))
      else none := by
  simp [promoted?, draft, children, hk]

theorem promoted?_container_of_kept (cs : List (Source α)) (hk : d.kind = .container)
    (h : d.declared.isSome = false → o.infer = true →
      background? (figures o cs) (inference o (figures o cs)) = none) :
    (node d cs).promoted? o = none := by
  rw [promoted?_container cs hk]
  split
  · rename_i hcond
    simp only [Bool.and_eq_true, Option.isNone_iff_eq_none] at hcond
    exact h (by rw [hcond.2]; rfl) hcond.1
  · rfl

theorem promoted?_group (cs : List (Source α)) (hk : d.kind = .group) :
    (node d cs).promoted? o =
      if o.infer then background? (figures o cs) (inference o (figures o cs)) else none := by
  simp [promoted?, draft, children, hk]

theorem promoted?_group_of_kept (cs : List (Source α)) (hk : d.kind = .group)
    (h : o.infer = true → background? (figures o cs) (inference o (figures o cs)) = none) :
    (node d cs).promoted? o = none := by
  rw [promoted?_group cs hk]
  split
  · rename_i hi
    exact h hi
  · rfl

theorem named_container_iff (hk : d.kind = .container) (hid : d.props.id ≠ "")
    {l : ContainerLayout α} {f : Figure α} (hstep : ContainerStep o d.declared.isSome
      ⟨.container l, d.snapshotProps⟩ l (figures o cs) f) :
    Figure.EveryOf (fun e _ => e.IsNamed) [f] ↔
      (node d cs).PromotesNamed o ∧ Figure.EveryOf (fun e _ => e.IsNamed) (figures o cs) := by
  have hsome := promoted?_container (o := o) cs hk
  rw [everyOf_singleton]
  cases hstep with
  | empty hcs =>
    have hnone : (node d cs).PromotesNamed o := promotesNamed_of_length (by simp [children, hcs])
    rw [hcs]
    exact iff_of_true ⟨fun hp => absurd hp Bool.false_ne_true, trivial⟩ ⟨hnone, trivial⟩
  | kept hne hfree =>
    have hnone := promoted?_container_of_kept cs hk fun hd hi => (hfree hd hi).1
    rw [every_settled_iff isNamed_settle]
    exact and_congr_left fun _ => iff_of_true (fun _ => hid) (promotesNamed_of_eq_none hnone)
  | flowing hne _ _ hb _ horder =>
    rw [every_settled_iff isNamed_settle, everyOf_perm horder]
    exact and_congr_left fun _ => iff_of_true (fun _ => hid) (promotesNamed_of_no_background hb)
  | promoted b rest hcs hrest hd hi hprom hb horder =>
    -- nobody asks a rectangle for its id, but the container it turns into has to have one
    have hfit := isFit_figures o cs
    have hdecl : d.declared.isNone = true := by simpa using hd
    rw [hb, hi, hdecl] at hsome
    rw [hcs] at hfit
    rw [hcs] at horder
    rw [every_settled_iff isNamed_settle, everyOf_singleton, promotesNamed_iff_of_eq_some hsome,
      hcs, every_promote_iff hfit.1 hprom horder]
    exact and_iff_right fun _ => hid

theorem named_group_iff (hk : d.kind = .group) (hid : d.props.id ≠ "")
    {r : Option (Figure α)} (hstep : GroupStep o ⟨.group, d.snapshotProps⟩ (figures o cs) r) :
    Figure.EveryOf (fun e _ => e.IsNamed) r.toList ↔
      (node d cs).PromotesNamed o ∧ Figure.EveryOf (fun e _ => e.IsNamed) (figures o cs) := by
  have hsome := promoted?_group (o := o) cs hk
  cases hstep with
  | empty hcs =>
    have hnone : (node d cs).PromotesNamed o := promotesNamed_of_length (by simp [children, hcs])
    rw [hcs]
    exact iff_of_true trivial ⟨hnone, trivial⟩
  | single f hcs =>
    have hnone : (node d cs).PromotesNamed o := promotesNamed_of_length (by simp [children, hcs])
    rw [hcs]
    exact (everyOf_shift_iff (fun _ => Iff.rfl) [f]).trans (and_iff_right hnone).symm
  | promoted b rest hcs hrest hi hprom hb horder =>
    have hfit := isFit_figures o cs
    rw [hb, hi] at hsome
    rw [hcs] at hfit
    rw [hcs] at horder
    rw [promotesNamed_iff_of_eq_some hsome, hcs, ← every_promote_iff hfit.1 hprom horder]
    exact (everyOf_shift_iff (fun _ => Iff.rfl) [_]).trans everyOf_singleton
  | kept htwo hfree =>
    have hnone := promoted?_group_of_kept cs hk hfree
    rw [Option.toList_some, everyOf_singleton, Figure.Every]
    exact and_congr_left fun _ => iff_of_true (fun _ => hid) (promotesNamed_of_eq_none hnone)

theorem named_induction : Induction o fun ss fs =>
    (∀ s ∈ survivorsOfAll ss, s.draft.lacksId = false) →
      (Figure.EveryOf (fun e _ => e.IsNamed) fs ↔ ∀ s ∈ survivorsOfAll ss, s.PromotesNamed o) where
  nil := fun _ => iff_of_true trivial nofun
  append := fun hs hss hid => by
    rw [survivorsOfAll_cons, forall_mem_append] at hid
    rw [survivorsOfAll_cons, forall_mem_append, everyOf_append, hs hid.1, hss hid.2]
  omitted := fun {d cs} hkept _ => by
    rw [survivorsOfAll_of_not_isKept hkept]
    exact iff_of_true trivial nofun
  leaf := fun {d cs e} hkept hk he _ => by
    have hleaf : e.kind.isParent = false := (Draft.isParent_snapshot he).trans hk
    -- only a container or a group promotes
    have hnone : (node d cs).promoted? o = none := by
      cases hd : d.kind with
      | container => rw [hd] at hk; cases hk
      | group => rw [hd] at hk; cases hk
      | _ => simp [promoted?, draft, hd]
    rw [survivorsOfAll_leaf hkept hk, forall_mem_singleton]
    refine iff_of_true ⟨⟨fun hp => ?_, trivial⟩, trivial⟩ (promotesNamed_of_eq_none hnone)
    rw [hleaf] at hp
    cases hp
  container := fun {d cs f} hkept hk ih hstep hid => by
    rw [survivorsOfAll_container hkept hk, forall_mem_cons] at hid
    rw [survivorsOfAll_container hkept hk, forall_mem_cons,
      named_container_iff hk (Draft.id_ne_of_lacksId (by rw [hk]; rfl) hid.1) hstep, ih hid.2]
  group := fun {d cs r} hkept hk ih hstep hid => by
    rw [survivorsOfAll_group hkept hk, forall_mem_cons] at hid
    rw [survivorsOfAll_group hkept hk, forall_mem_cons,
      named_group_iff hk (Draft.id_ne_of_lacksId (by rw [hk]; rfl) hid.1) hstep, ih hid.2]

end Source

namespace Figure

variable {α : Type} [Scalar α] [Circular α] {o : NormalizeOptions α}

theorem groupNamed_invariant : Invariant o (fun d => d.lacksId = false)
    fun e _ => e.kind = .group → e.props.id ≠ "" where
  shift := fun h _ _ => h
  settle := fun {e _} h f => by
    rcases Element.container_or_settle_eq f e with ⟨l, hl⟩ | he
    · rw [Element.settle_of_container f hl]
      exact nofun
    · rwa [he]
  leaf := fun {d e} _ _ hk he hg => by
    have hp := (Draft.isParent_snapshot he).trans hk
    rw [hg] at hp
    cases hp
  emptied := fun _ _ _ => nofun
  container := fun _ _ _ _ _ => nofun
  promoted := fun _ _ _ _ => nofun
  group := fun _ hid hk _ _ _ => Draft.id_ne_of_lacksId (by rw [hk]; rfl) hid

end Figure

section
variable {α : Type} [Scalar α] [Circular α]

/-- **A result can be normalized again if and only if what it visits has ids.** These are there
unless a rectangle without an id was promoted. -/
theorem renormalize_ok_iff (o : NormalizeOptions α) (c : Context) (selection : List (HostNode α))
    {a : Arena α} (h : (normalizeInto o c selection).1 = .ok a) :
    (∀ (o' : NormalizeOptions α) (c' : Context), (∃ b, (a.renormalizeInto o' c').1 = .ok b) ↔
      ∀ i s, a.Visited i s → s.element.IsNamed) ∧
    (a.Everywhere Element.IsNamed ↔
      ∀ s ∈ Source.survivorsOfAll (HostNode.toSources selection), s.PromotesNamed o) ∧
    a.Everywhere fun e => e.kind = .group → e.props.id ≠ "" := by
  obtain ⟨hid, rfl⟩ := normalizeSources_eq_ok_iff.mp h
  have hunfolds := Arena.restructure_unfoldsAll o (HostNode.toSources selection)
  have hclean := (Figure.isFit_figures o (HostNode.toSources selection)).and
    (Figure.isClean_figures o (HostNode.toSources selection))
  refine ⟨fun o' c' => ?_, ?_, ?_⟩
  · unfold Arena.renormalizeInto
    simp only [normalizeSources_eq_ok_iff, exists_and_left, exists_eq, and_true]
    rw [Arena.sources_restructure, ← Figure.areCleared_iff_survivors hclean,
      Arena.areCleared_iff_visited hunfolds]
  · rw [Arena.everywhere_iff hunfolds]
    exact Source.named_induction.all _ hid
  · rw [Arena.everywhere_iff hunfolds]
    exact Figure.groupNamed_invariant.everyOf_figures hid

end

def patch : List (HostNode Float) :=
  [.node (.plain "1" "frame" .frame ⟨0, 0, 100, 100, 0⟩)
    [.node (.plain "" "back" .rectangle ⟨10, 10, 80, 80, 0⟩) [],
      .node (.plain "3" "dot" .ellipse ⟨20, 20, 10, 10, 0⟩) []]]

theorem patch_not_renormalizes : ∃ a, (normalizeInto default .empty patch).1 = .ok a ∧
    ¬∃ b, (a.renormalizeInto default .empty).1 = .ok b := by
  refine ⟨restructure default (HostNode.toSources patch), rfl, fun hb => ?_⟩
  have hvisited := ((renormalize_ok_iff default .empty patch rfl).1 default .empty).mp hb
  have hclear := (Arena.areCleared_iff_visited
    (Arena.restructure_unfoldsAll default (HostNode.toSources patch))).mpr hvisited
  obtain ⟨_, hback, _⟩ := hclear.1 rfl
  exact (hback rfl).1 rfl rfl

end Artboard
