import Artboard.Proofs.Rewriting
import Artboard.Proofs.Settling

/-!
# Invariants of figures

A property of an element and the figures below it holds all over the figures of a run if snapshots
have it, if it survives shifting and settling of the element, and if the elements a rewrite makes
have it. Every container among the figures holds something that has settled under its flow, every
group holds two figures or more, and nothing else holds any.
-/

open List

namespace Artboard

/-! ## Properties of all nodes -/

namespace Figure

variable {α : Type}

mutual

def Every (P : Element α → List (Figure α) → Prop) : Figure α → Prop
  | node e cs => P e cs ∧ EveryOf P cs

def EveryOf (P : Element α → List (Figure α) → Prop) : List (Figure α) → Prop
  | [] => True
  | f :: fs => Every P f ∧ EveryOf P fs

end

variable {P Q : Element α → List (Figure α) → Prop}

theorem everyOf_iff {fs : List (Figure α)} : EveryOf P fs ↔ ∀ f ∈ fs, Every P f := by
  induction fs with
  | nil => simp [EveryOf]
  | cons f fs ih => simp [EveryOf, ih]

theorem every_iff {f : Figure α} : Every P f ↔ P f.element f.children ∧ EveryOf P f.children := by
  cases f; rfl

theorem everyOf_singleton {f : Figure α} : EveryOf P [f] ↔ Every P f := by
  simp [everyOf_iff]

theorem everyOf_append {fs gs : List (Figure α)} :
    EveryOf P (fs ++ gs) ↔ EveryOf P fs ∧ EveryOf P gs := by
  simp only [everyOf_iff, mem_append]
  exact ⟨fun h => ⟨fun f hf => h f (.inl hf), fun f hf => h f (.inr hf)⟩,
    fun h f hf => hf.elim (h.1 f) (h.2 f)⟩

theorem everyOf_perm {fs gs : List (Figure α)} (h : fs ~ gs) : EveryOf P fs ↔ EveryOf P gs := by
  simp only [everyOf_iff, h.mem_iff]

theorem Every.mapElement {g : Element α → Element α} {f : Figure α}
    (hg : ∀ {e cs}, P e cs → P (g e) cs) (h : Every P f) : Every P (f.mapElement g) := by
  cases f with
  | node e cs => exact ⟨hg h.1, h.2⟩

theorem EveryOf.map_mapElement {g : Element α → Element α} {fs : List (Figure α)}
    (hg : ∀ {e cs}, P e cs → P (g e) cs) (h : EveryOf P fs) : EveryOf P (fs.map (mapElement g)) := by
  rw [everyOf_iff] at h ⊢
  intro f hf
  obtain ⟨f', hf', rfl⟩ := mem_map.mp hf
  exact (h f' hf').mapElement hg

theorem every_mapElement_iff {g : Element α → Element α} (hg : ∀ e cs, P (g e) cs ↔ P e cs)
    {f : Figure α} : Every P (f.mapElement g) ↔ Every P f := by
  cases f
  simp only [mapElement, Every, hg]

theorem everyOf_map_iff {g : Element α → Element α} (hg : ∀ e cs, P (g e) cs ↔ P e cs)
    {fs : List (Figure α)} : EveryOf P (fs.map (mapElement g)) ↔ EveryOf P fs := by
  simp only [everyOf_iff, forall_mem_map, every_mapElement_iff hg]

section
variable [Scalar α] {R : Element α → Prop}

theorem every_settled_iff (hR : ∀ f e, R (Element.settle f e) ↔ R e) {e : Element α}
    {cs : List (Figure α)} :
    Every (fun e _ => R e) (settled e cs) ↔ R e ∧ EveryOf (fun e _ => R e) cs := by
  rw [settled, Every, everyOf_map_iff fun e _ => hR _ e]

theorem everyOf_shift_iff {dx dy : α} (hR : ∀ e : Element α, R (e.shift dx dy) ↔ R e)
    (fs : List (Figure α)) :
    EveryOf (fun e _ => R e) (fs.map fun f => f.shift dx dy) ↔ EveryOf (fun e _ => R e) fs :=
  everyOf_map_iff fun e _ => hR e

end

mutual

theorem Every.imp (h : ∀ e cs, P e cs → Q e cs) : ∀ {f : Figure α}, Every P f → Every Q f
  | node e cs, hf => ⟨h e cs hf.1, EveryOf.imp h hf.2⟩

theorem EveryOf.imp (h : ∀ e cs, P e cs → Q e cs) : ∀ {fs : List (Figure α)},
    EveryOf P fs → EveryOf Q fs
  | [], _ => trivial
  | _ :: _, hfs => ⟨Every.imp h hfs.1, EveryOf.imp h hfs.2⟩

end

mutual

theorem Every.and : ∀ {f : Figure α}, Every P f → Every Q f → Every (fun e cs => P e cs ∧ Q e cs) f
  | node _ _, hp, hq => ⟨⟨hp.1, hq.1⟩, EveryOf.and hp.2 hq.2⟩

theorem EveryOf.and : ∀ {fs : List (Figure α)}, EveryOf P fs → EveryOf Q fs →
    EveryOf (fun e cs => P e cs ∧ Q e cs) fs
  | [], _, _ => trivial
  | _ :: _, hp, hq => ⟨Every.and hp.1 hq.1, EveryOf.and hp.2 hq.2⟩

end

mutual

def Every.decidable (h : ∀ e cs, Decidable (P e cs)) : ∀ f : Figure α, Decidable (Every P f)
  | node e cs => @instDecidableAnd _ _ (h e cs) (EveryOf.decidable h cs)

def EveryOf.decidable (h : ∀ e cs, Decidable (P e cs)) :
    ∀ fs : List (Figure α), Decidable (EveryOf P fs)
  | [] => instDecidableTrue
  | f :: fs => @instDecidableAnd _ _ (Every.decidable h f) (EveryOf.decidable h fs)

end

instance [h : ∀ e cs, Decidable (P e cs)] (fs : List (Figure α)) : Decidable (EveryOf P fs) :=
  EveryOf.decidable h fs

end Figure

namespace Source

variable {α : Type}

mutual

/-- `D` holds of every node of a source, be it kept or not. -/
def Every (D : Draft α → Prop) : Source α → Prop
  | node d cs => D d ∧ EveryOf D cs

def EveryOf (D : Draft α → Prop) : List (Source α) → Prop
  | [] => True
  | s :: ss => Every D s ∧ EveryOf D ss

end

variable [Scalar α]

mutual

/-- What is kept and lies below nothing but containers and groups that are kept, a node before its
children. -/
def survivors : Source α → List (Source α)
  | node d cs =>
    if d.isKept then node d cs :: (if d.kind.hasChildren then survivorsOfAll cs else []) else []

def survivorsOfAll : List (Source α) → List (Source α)
  | [] => []
  | s :: ss => survivors s ++ survivorsOfAll ss

end

theorem survivorsOfAll_cons (s : Source α) (ss : List (Source α)) :
    survivorsOfAll (s :: ss) = survivorsOfAll [s] ++ survivorsOfAll ss := by
  simp only [survivorsOfAll, append_nil]

theorem survivorsOfAll_singleton (d : Draft α) (cs : List (Source α)) :
    survivorsOfAll [node d cs] =
      if d.isKept then node d cs :: (if d.kind.hasChildren then survivorsOfAll cs else [])
      else [] := by
  simp only [survivorsOfAll, append_nil, survivors]

theorem survivorsOfAll_of_not_isKept {d : Draft α} (h : d.isKept = false) (cs : List (Source α)) :
    survivorsOfAll [node d cs] = [] := by
  simp [survivorsOfAll_singleton, h]

theorem survivorsOfAll_leaf {d : Draft α} (h : d.isKept = true) (hk : d.kind.hasChildren = false)
    (cs : List (Source α)) : survivorsOfAll [node d cs] = [node d cs] := by
  simp [survivorsOfAll_singleton, h, hk]

theorem survivorsOfAll_parent {d : Draft α} (h : d.isKept = true) (hk : d.kind.hasChildren = true)
    (cs : List (Source α)) : survivorsOfAll [node d cs] = node d cs :: survivorsOfAll cs := by
  simp [survivorsOfAll_singleton, h, hk]

theorem survivorsOfAll_container {d : Draft α} (h : d.isKept = true) (hk : d.kind = .container)
    (cs : List (Source α)) : survivorsOfAll [node d cs] = node d cs :: survivorsOfAll cs :=
  survivorsOfAll_parent h (by rw [hk]; rfl) cs

theorem survivorsOfAll_group {d : Draft α} (h : d.isKept = true) (hk : d.kind = .group)
    (cs : List (Source α)) : survivorsOfAll [node d cs] = node d cs :: survivorsOfAll cs :=
  survivorsOfAll_parent h (by rw [hk]; rfl) cs

mutual

theorem Every.of_mem_survivors {D : Draft α → Prop} : ∀ {s : Source α}, Every D s →
    ∀ t ∈ survivors s, D t.draft
  | node d cs, ⟨hd, hcs⟩, t, ht => by
    unfold survivors at ht
    split at ht
    · rcases mem_cons.mp ht with rfl | ht
      · exact hd
      · split at ht
        · exact EveryOf.of_mem_survivors hcs t ht
        · cases ht
    · cases ht

theorem EveryOf.of_mem_survivors {D : Draft α → Prop} : ∀ {ss : List (Source α)}, EveryOf D ss →
    ∀ t ∈ survivorsOfAll ss, D t.draft
  | s :: ss, ⟨hs, hss⟩, t, ht => by
    rcases mem_append.mp ht with h | h
    · exact Every.of_mem_survivors hs t h
    · exact EveryOf.of_mem_survivors hss t h

end

end Source

/-! ## The invariant of a run -/

namespace Figure

variable {α : Type} [Scalar α] [Circular α]

structure Invariant (o : NormalizeOptions α) (D : Draft α → Prop)
    (P : Element α → List (Figure α) → Prop) : Prop where
  shift : ∀ {e cs}, P e cs → ∀ dx dy : α, P (e.shift dx dy) cs
  settle : ∀ {e cs}, P e cs → ∀ f : Flow, P (e.settle f) cs
  leaf : ∀ {d : Draft α} {e}, d.isKept = true → D d → d.kind.hasChildren = false →
    d.snapshot = some e → P e []
  emptied : ∀ {d : Draft α}, d.isKept = true → D d → d.kind = .container →
    P ⟨.rectangle, d.snapshotProps⟩ []
  container : ∀ {d : Draft α} {cs}, d.isKept = true → D d → d.kind = .container → cs ≠ [] →
    ∀ l : ContainerLayout α,
      P ⟨.container l, d.snapshotProps⟩ (cs.map (mapElement (Element.settle l.flow)))
  promoted : ∀ {b : Figure α} {cs}, P b.element b.children → b.isPromotable = true → cs ≠ [] →
    ∀ i : Inference α,
      P (Scene.promotedElement b.element i) (cs.map (mapElement (Element.settle i.flow)))
  group : ∀ {d : Draft α} {cs}, d.isKept = true → D d → d.kind = .group → 2 ≤ cs.length →
    (o.infer = true → background? cs (inference o cs) = none) → P ⟨.group, d.snapshotProps⟩ cs

namespace Invariant

variable {o : NormalizeOptions α} {D : Draft α → Prop} {P : Element α → List (Figure α) → Prop}
variable (h : Invariant o D P)
include h

theorem every_shift {f : Figure α} (hf : Every P f) (dx dy : α) : Every P (f.shift dx dy) :=
  hf.mapElement fun hp => h.shift hp dx dy

theorem everyOf_settle {fs : List (Figure α)} (hfs : EveryOf P fs) (f : Flow) :
    EveryOf P (fs.map (mapElement (Element.settle f))) :=
  hfs.map_mapElement fun hp => h.settle hp f

theorem every_promote {cs rest : List (Figure α)} {b : Figure α} {i : Inference α}
    (hcs : EveryOf P cs) (hb : cs = b :: rest) (hrest : rest ≠ []) (hprom : b.isPromotable = true)
    (horder : inOrder cs i.order ~ rest) : Every P (promote cs i b) := by
  subst hb
  have hmoved : EveryOf P ((inOrder (b :: rest) i.order).map fun f =>
      f.shift (-b.element.props.geometry.x) (-b.element.props.geometry.y)) :=
    ((everyOf_perm horder).mpr hcs.2).map_mapElement fun hp => h.shift hp _ _
  have hne : (inOrder (b :: rest) i.order).map (fun f =>
      f.shift (-b.element.props.geometry.x) (-b.element.props.geometry.y)) ≠ [] := by
    rw [Ne, map_eq_nil_iff]
    exact ne_nil_of_perm horder hrest
  exact ⟨h.promoted (every_iff.mp hcs.1).1 hprom hne i, h.everyOf_settle hmoved _⟩

theorem every_container {d : Draft α} {l : ContainerLayout α} {cs : List (Figure α)} {f : Figure α}
    (hkept : d.isKept = true) (hd : D d) (hk : d.kind = .container) (hcs : EveryOf P cs)
    {declared : Bool} (hstep : ContainerStep o declared ⟨.container l, d.snapshotProps⟩ l cs f) :
    Every P f := by
  cases hstep with
  | empty => exact ⟨h.emptied hkept hd hk, trivial⟩
  | kept hne => exact ⟨h.container hkept hd hk hne _, h.everyOf_settle hcs _⟩
  | flowing hne _ _ _ _ horder =>
    have hordered := (everyOf_perm horder).mpr hcs
    exact ⟨h.container hkept hd hk (ne_nil_of_perm horder hne) _, h.everyOf_settle hordered _⟩
  | promoted b rest hb hrest _ _ hprom _ horder =>
    have hp := h.every_promote hcs hb hrest hprom horder
    exact ⟨h.container hkept hd hk (cons_ne_nil _ _) _,
      h.everyOf_settle (everyOf_singleton.mpr hp) _⟩

theorem everyOf_group {d : Draft α} {cs : List (Figure α)} {r : Option (Figure α)}
    (hkept : d.isKept = true) (hd : D d) (hk : d.kind = .group) (hcs : EveryOf P cs)
    (hstep : GroupStep o ⟨.group, d.snapshotProps⟩ cs r) : EveryOf P r.toList := by
  cases hstep with
  | empty => exact trivial
  | single f hf =>
    subst hf
    exact everyOf_singleton.mpr (h.every_shift hcs.1 _ _)
  | promoted b rest hb hrest _ hprom _ horder =>
    exact everyOf_singleton.mpr (h.every_shift (h.every_promote hcs hb hrest hprom horder) _ _)
  | kept htwo hfree =>
    exact everyOf_singleton.mpr ⟨h.group hkept hd hk htwo hfree, hcs⟩

theorem induction :
    Source.Induction o fun ss fs => (∀ s ∈ Source.survivorsOfAll ss, D s.draft) → EveryOf P fs where
  nil := fun _ => trivial
  append := fun hs hss hd => by
    rw [Source.survivorsOfAll_cons, forall_mem_append] at hd
    exact everyOf_append.mpr ⟨hs hd.1, hss hd.2⟩
  omitted := fun _ _ => trivial
  leaf := fun hkept hk he hd => by
    rw [Source.survivorsOfAll_leaf hkept hk, forall_mem_singleton] at hd
    exact ⟨⟨h.leaf hkept hd hk he, trivial⟩, trivial⟩
  container := fun hkept hk ih hstep hd => by
    rw [Source.survivorsOfAll_container hkept hk, forall_mem_cons] at hd
    exact everyOf_singleton.mpr (h.every_container hkept hd.1 hk (ih hd.2) hstep)
  group := fun hkept hk ih hstep hd => by
    rw [Source.survivorsOfAll_group hkept hk, forall_mem_cons] at hd
    exact h.everyOf_group hkept hd.1 hk (ih hd.2) hstep

/-- **Invariants hold.** -/
theorem everyOf_figures {ss : List (Source α)} (hd : ∀ s ∈ Source.survivorsOfAll ss, D s.draft) :
    EveryOf P (Source.figures o ss) :=
  h.induction.all ss hd

end Invariant

/-! ## What nodes hold -/

/-- The figures below an element befit its kind. -/
def IsFit (o : NormalizeOptions α) (e : Element α) (cs : List (Figure α)) : Prop :=
  match e.kind with
  | .container l => cs ≠ [] ∧ ∀ c ∈ cs, c.element.settle l.flow = c.element
  | .group => 2 ≤ cs.length ∧ (o.infer = true → background? cs (inference o cs) = none)
  | _ => cs = []

variable {o : NormalizeOptions α}

omit [Circular α] in
theorem IsFit.eq_nil {e : Element α} {cs : List (Figure α)} (h : IsFit o e cs)
    (hk : e.kind.isParent = false) : cs = [] := by
  obtain ⟨kind, props⟩ := e
  cases kind with
  | container l => cases hk
  | group => cases hk
  | _ => exact h

omit [Circular α] in
theorem kind_of_isPromotable {b : Figure α} (hfit : Every (IsFit o) b)
    (hprom : b.isPromotable = true) : b.element.kind = .rectangle ∧ b.children = [] := by
  have hb := (every_iff.mp hfit).1
  unfold isPromotable at hprom
  split at hprom
  · rename_i hk
    exact ⟨hk, hb.eq_nil (by rw [hk]; rfl)⟩
  · rename_i l hk
    have hcs : b.children ≠ [] := by
      unfold IsFit at hb
      rw [hk] at hb
      exact hb.1
    exact absurd (isEmpty_iff.mp hprom) hcs
  · cases hprom

omit [Circular α] in
theorem isFit_settled {l : ContainerLayout α} {p : Props α} {cs : List (Figure α)} (h : cs ≠ []) :
    IsFit o ⟨.container l, p⟩ (cs.map (mapElement (Element.settle l.flow))) := by
  refine ⟨by simpa using h, fun c hc => ?_⟩
  obtain ⟨c', _, rfl⟩ := mem_map.mp hc
  rw [element_mapElement, Element.settle_settle]

omit [Circular α] in
theorem isFit_settle {e : Element α} {cs : List (Figure α)} (h : IsFit o e cs) (f : Flow) :
    IsFit o (e.settle f) cs := by
  obtain ⟨kind, props⟩ := e
  cases kind with
  | container l =>
    rw [Element.settle_of_container f rfl]
    exact h
  | _ => exact h

omit [Circular α] in
theorem isFit_leaf {e : Element α} (h : e.kind.isParent = false) : IsFit o e [] := by
  obtain ⟨kind, props⟩ := e
  cases kind with
  | container l => cases h
  | group => cases h
  | _ => exact rfl

theorem isFit_invariant : Invariant o (fun _ => True) (IsFit o) where
  shift := fun h _ _ => h
  settle := isFit_settle
  leaf := fun _ _ hk he => isFit_leaf ((Draft.isParent_snapshot he).trans hk)
  emptied := fun _ _ _ => rfl
  container := fun _ _ _ h _ => isFit_settled h
  promoted := fun _ _ h _ => isFit_settled h
  group := fun _ _ _ htwo hfree => ⟨htwo, hfree⟩

theorem isFit_figures (o : NormalizeOptions α) (ss : List (Source α)) :
    EveryOf (IsFit o) (Source.figures o ss) :=
  isFit_invariant.everyOf_figures fun _ _ => trivial

end Figure

end Artboard
