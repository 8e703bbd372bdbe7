import Artboard.Proofs.Survival
import Artboard.Proofs.Unfolding

/-!
# Survivors and elements

Survivors match elements if each has become one of them, in some order. Every rewrite keeps the
survivors below a list of sources matched with the elements of its figures, so the arena of a run
realizes its sources.
-/

open List

namespace Artboard

theorem forall₂_comp {β γ δ : Type} {R : β → γ → Prop} {S : γ → δ → Prop} {T : β → δ → Prop}
    (hT : ∀ a b c, R a b → S b c → T a c) {as : List β} {bs : List γ} (h : Forall₂ R as bs) :
    ∀ {cs : List δ}, Forall₂ S bs cs → Forall₂ T as cs := by
  induction h with
  | nil =>
    intro cs h'
    cases h'
    exact .nil
  | cons hab _ ih =>
    intro cs h'
    cases h' with
    | cons hbc h' => exact .cons (hT _ _ _ hab hbc) (ih h')

theorem exists_of_mem_forall₂ {β γ : Type} {R : β → γ → Prop} {as : List β} {bs : List γ}
    (h : Forall₂ R as bs) {a : β} (ha : a ∈ as) : ∃ b ∈ bs, R a b := by
  induction h with
  | nil => cases ha
  | cons hab _ ih =>
    rcases mem_cons.mp ha with rfl | ha
    · exact ⟨_, mem_cons_self, hab⟩
    · obtain ⟨b, hb, hR⟩ := ih ha
      exact ⟨b, mem_cons_of_mem _ hb, hR⟩

/-- Related one to one, in some order. -/
def Pairs {β γ : Type} (R : β → γ → Prop) (xs : List β) (ys : List γ) : Prop :=
  ∃ zs, Forall₂ R xs zs ∧ zs ~ ys

namespace Pairs

variable {β γ δ : Type} {R : β → γ → Prop} {xs xs' : List β} {ys ys' : List γ}

theorem nil : Pairs R [] [] := ⟨[], .nil, Perm.nil⟩

theorem append (h : Pairs R xs ys) (h' : Pairs R xs' ys') : Pairs R (xs ++ xs') (ys ++ ys') := by
  obtain ⟨zs, hzs, hperm⟩ := h
  obtain ⟨zs', hzs', hperm'⟩ := h'
  exact ⟨zs ++ zs', rel_append hzs hzs', hperm.append hperm'⟩

theorem cons {x : β} {y : γ} (hxy : R x y) (h : Pairs R xs ys) : Pairs R (x :: xs) (y :: ys) := by
  obtain ⟨zs, hzs, hperm⟩ := h
  exact ⟨y :: zs, .cons hxy hzs, hperm.cons y⟩

theorem perm (h : Pairs R xs ys) (hp : ys ~ ys') : Pairs R xs ys' := by
  obtain ⟨zs, hzs, hperm⟩ := h
  exact ⟨zs, hzs, hperm.trans hp⟩

theorem comp {S : γ → δ → Prop} {T : β → δ → Prop} (hT : ∀ x y z, R x y → S y z → T x z)
    (h : Pairs R xs ys) {zs : List δ} (hS : Forall₂ S ys zs) : Pairs T xs zs := by
  obtain ⟨ys', hys, hperm⟩ := h
  obtain ⟨zs', hzs, hperm'⟩ := perm_comp_forall₂ hperm hS
  exact ⟨zs', forall₂_comp hT hys hzs, hperm'⟩

theorem length_eq (h : Pairs R xs ys) : xs.length = ys.length := by
  obtain ⟨zs, hzs, hperm⟩ := h
  exact hzs.length_eq.trans hperm.length_eq

end Pairs

variable {α : Type} [Scalar α] [Circular α]

/-! ## Matching -/

namespace Source

variable {hollow : Source α → Prop}

theorem Becomes.shift {s : Source α} {e : Element α} (h : s.Becomes hollow e) (dx dy : α) :
    s.Becomes hollow (e.shift dx dy) := by
  obtain ⟨e₀, he₀, hprops, hkind⟩ := h
  exact ⟨e₀, he₀, hprops.shift dx dy, hkind⟩

theorem Becomes.settle {s : Source α} {e : Element α} (h : s.Becomes hollow e) (f : Flow) :
    s.Becomes hollow (e.settle f) := by
  obtain ⟨e₀, he₀, hprops, hkind⟩ := h
  refine ⟨e₀, he₀, by rwa [Element.props_settle], ?_⟩
  rcases Element.container_or_settle_eq f e with ⟨l, hl⟩ | he
  · rw [Element.settle_of_container f hl]
    rw [hl] at hkind
    exact hkind.container_congr rfl
  · rwa [he]

theorem Becomes.promoted {s : Source α} {e : Element α} (h : s.Becomes hollow e)
    (he : e.kind = .rectangle) (i : Inference α) :
    s.Becomes hollow (Scene.promotedElement e i) := by
  obtain ⟨e₀, he₀, hprops, hkind⟩ := h
  rw [he] at hkind
  exact ⟨e₀, he₀, hprops, .promoted hkind rfl⟩

variable (hollow) in
def Turns (e e' : Element α) : Prop := ∀ s : Source α, s.Becomes hollow e → s.Becomes hollow e'

variable (hollow) in
/-- The sources have become the elements, in some order. -/
def Matches (ss : List (Source α)) (es : List (Element α)) : Prop :=
  ∃ es', Forall₂ (Becomes hollow) ss es' ∧ es' ~ es

namespace Matches

variable {ss ts : List (Source α)} {es fs : List (Element α)}

theorem nil : Matches hollow ([] : List (Source α)) [] := Pairs.nil

theorem append (hs : Matches hollow ss es) (ht : Matches hollow ts fs) :
    Matches hollow (ss ++ ts) (es ++ fs) := Pairs.append hs ht

theorem cons {s : Source α} {e : Element α} (h : s.Becomes hollow e) (hs : Matches hollow ss es) :
    Matches hollow (s :: ss) (e :: es) := Pairs.cons h hs

theorem perm (h : Matches hollow ss es) (hp : es ~ fs) : Matches hollow ss fs := Pairs.perm h hp

theorem turn (h : Matches hollow ss es) (ht : Forall₂ (Turns hollow) es fs) :
    Matches hollow ss fs := Pairs.comp (fun _ _ _ hse hturn => hturn _ hse) h ht

theorem length_eq (h : Matches hollow ss es) : ss.length = es.length := Pairs.length_eq h

theorem exists_becomes (h : Matches hollow ss es) {s : Source α} (hs : s ∈ ss) :
    ∃ e ∈ es, s.Becomes hollow e := by
  obtain ⟨es', hes, hperm⟩ := h
  obtain ⟨e, he, hse⟩ := exists_of_mem_forall₂ hes hs
  exact ⟨e, hperm.mem_iff.mp he, hse⟩

theorem eq_nil_iff (h : Matches hollow ss es) : ss = [] ↔ es = [] := by
  rw [← length_eq_zero_iff, h.length_eq, length_eq_zero_iff]

end Matches

theorem turns_refl (e : Element α) : Turns hollow e e := fun _ h => h

end Source

/-! ## Rewrites keep survivors matched -/

namespace Figure

open Source

variable {hollow : Source α → Prop} {ss : List (Source α)} {o : NormalizeOptions α}

omit [Circular α] in
theorem isGroup_settle (f : Flow) (e : Element α) :
    (e.settle f).kind.isGroup = e.kind.isGroup := by
  rcases Element.container_or_settle_eq f e with ⟨l, hl⟩ | he
  · rw [Element.settle_of_container f hl, hl]
    rfl
  · rw [he]

theorem turns_settle (f : Flow) (fs : List (Figure α)) :
    Forall₂ (Turns hollow) (ungroupedOfAll fs)
      (ungroupedOfAll (fs.map (mapElement (Element.settle f)))) :=
  forall₂_ungroupedOfAll_map turns_refl _ (isGroup_settle f) (fun _ _ h => h.settle f) fs

theorem turns_shift (dx dy : α) (fs : List (Figure α)) :
    Forall₂ (Turns hollow) (ungroupedOfAll fs) (ungroupedOfAll (fs.map fun f => f.shift dx dy)) :=
  forall₂_ungroupedOfAll_map turns_refl (fun e => e.shift dx dy) (fun _ => rfl)
    (fun _ _ h => h.shift dx dy) fs

theorem turns_shift_one (dx dy : α) (f : Figure α) :
    Forall₂ (Turns hollow) (ungroupedOfAll [f]) (ungroupedOfAll [f.shift dx dy]) :=
  turns_shift dx dy [f]

theorem matches_promote {b : Figure α} {rest : List (Figure α)} {i : Inference α}
    (h : Matches hollow ss (ungroupedOfAll (b :: rest))) (hfit : Every (IsFit o) b)
    (hprom : b.isPromotable = true) (horder : inOrder (b :: rest) i.order ~ rest) :
    Matches hollow ss (ungroupedOfAll [promote (b :: rest) i b]) := by
  obtain ⟨hk, hcs⟩ := kind_of_isPromotable hfit hprom
  obtain ⟨e, cs⟩ := b
  simp only [element_node] at hk
  simp only [children_node] at hcs
  subst hcs
  have hleft : ungroupedOfAll (node e [] :: rest) = e :: ungroupedOfAll rest := by
    rw [ungroupedOfAll, ungrouped, hk]
    rfl
  have horder' := (ungroupedOfAll_perm horder).symm
  rw [hleft] at h
  rw [promote, settled, ungroupedOfAll_node rfl]
  -- the background's element goes over to the container, its siblings only move
  have hmoved := (h.perm (horder'.cons e)).turn
    (.cons (fun s hs => hs.promoted hk i) (turns_shift (-e.props.geometry.x) (-e.props.geometry.y) _))
  exact hmoved.turn (.cons (turns_refl _) (turns_settle i.flow _))

theorem matches_container {d : Draft α} {cs : List (Source α)} {gs : List (Figure α)}
    {l : ContainerLayout α} {declared : Bool} {f : Figure α}
    (he : d.snapshot = some ⟨.container l, d.snapshotProps⟩)
    (ih : Matches IsHollow (Source.ungrouped cs) (ungroupedOfAll gs)) (hfit : EveryOf (IsFit o) gs)
    (hstep : ContainerStep o declared ⟨.container l, d.snapshotProps⟩ l gs f) :
    Matches IsHollow (.node d cs :: Source.ungrouped cs) (ungroupedOfAll [f]) := by
  -- a container has no figures below exactly if nothing but groups survives there
  have hollow_iff : IsHollow (.node d cs) ↔ gs = [] :=
    ih.eq_nil_iff.trans (ungroupedOfAll_eq_nil_iff hfit)
  have hbecomes : ∀ l', gs ≠ [] →
      (Source.node d cs).Becomes IsHollow ⟨.container l', d.snapshotProps⟩ := fun l' hne =>
    ⟨_, he, Props.agreeButPlace_refl _, .container fun hh => hne (hollow_iff.mp hh)⟩
  cases hstep with
  | empty hcs =>
    subst hcs
    exact .cons ⟨_, he, Props.agreeButPlace_refl _, .emptied (hollow_iff.mpr rfl)⟩ ih
  | kept hne =>
    rw [settled, ungroupedOfAll_node rfl]
    exact .cons (hbecomes l hne) (ih.turn (turns_settle _ _))
  | flowing hne _ _ _ _ horder =>
    rw [settled, ungroupedOfAll_node rfl]
    exact .cons (hbecomes _ hne) ((ih.perm (ungroupedOfAll_perm horder).symm).turn (turns_settle _ _))
  | promoted b rest hcs hrest _ _ hprom _ horder =>
    subst hcs
    rw [settled, ungroupedOfAll_node rfl]
    exact .cons (hbecomes _ (cons_ne_nil _ _))
      ((matches_promote ih hfit.1 hprom horder).turn (turns_settle _ _))

theorem matches_group {e : Element α} {gs : List (Figure α)} {r : Option (Figure α)}
    (he : e.kind = .group) (ih : Matches hollow ss (ungroupedOfAll gs))
    (hfit : EveryOf (IsFit o) gs) (hstep : GroupStep o e gs r) :
    Matches hollow ss (ungroupedOfAll r.toList) := by
  cases hstep with
  | empty hcs =>
    subst hcs
    exact ih
  | single f hcs =>
    subst hcs
    exact ih.turn (turns_shift_one _ _ f)
  | promoted b rest hcs hrest _ hprom _ horder =>
    subst hcs
    exact (matches_promote ih hfit.1 hprom horder).turn (turns_shift_one _ _ _)
  | kept =>
    rw [Option.toList_some, ungroupedOfAll_group (by rw [he]; rfl)]
    exact ih

end Figure

namespace Source

variable (o : NormalizeOptions α)

theorem matches_induction :
    Induction o fun ss fs => Matches IsHollow (ungrouped ss) (Figure.ungroupedOfAll fs) where
  nil := .nil
  append := fun hs hss => by
    rw [ungrouped_cons, Figure.ungroupedOfAll_append]
    exact hs.append hss
  omitted := fun hkept => by
    rw [ungrouped_of_not_isKept hkept]
    exact .nil
  leaf := fun {d cs e} hkept hk he => by
    have hsame := Kind.of_isParent_eq_false ((Draft.isParent_snapshot he).trans hk)
    rw [ungrouped_leaf hkept hk, Figure.ungroupedOfAll_node hsame.2]
    exact .cons ⟨e, he, Props.agreeButPlace_refl _, .same hsame.1⟩ .nil
  container := fun {d cs f} hkept hk ih hstep => by
    rw [ungrouped_container hkept hk]
    exact Figure.matches_container (Draft.snapshot_container hk) ih
      (Figure.isFit_figures o cs) hstep
  group := fun {d cs r} hkept hk ih hstep => by
    rw [ungrouped_group hkept hk]
    exact Figure.matches_group rfl ih
      (Figure.isFit_figures o cs) hstep

theorem isHollow_iff {d : Draft α} {cs : List (Source α)} :
    IsHollow (.node d cs) ↔ figures o cs = [] :=
  ((matches_induction o).all cs).eq_nil_iff.trans
    (Figure.ungroupedOfAll_eq_nil_iff (Figure.isFit_figures o cs))

section
variable {o} {d : Draft α} {cs : List (Source α)} {l : ContainerLayout α}
  (he : d.snapshot = some ⟨.container l, d.snapshotProps⟩)
include he

theorem becomes_container (hne : figures o cs ≠ []) (l' : ContainerLayout α) :
    (node d cs).Becomes IsHollow ⟨.container l', d.snapshotProps⟩ :=
  ⟨_, he, Props.agreeButPlace_refl _, .container fun hh => hne ((isHollow_iff o).mp hh)⟩

theorem becomes_emptied (hnil : figures o cs = []) :
    (node d cs).Becomes IsHollow ⟨.rectangle, d.snapshotProps⟩ :=
  ⟨_, he, Props.agreeButPlace_refl _, .emptied ((isHollow_iff o).mpr hnil)⟩

end

end Source

/-! ## The arena of a run -/

namespace Scene

def ungroupedSlots (ss : List (Scene α)) : List (Nat × Slot α) :=
  (slotsOfAll none ss).filter fun q => !q.2.element.kind.isGroup

omit [Scalar α] [Circular α] in
mutual

theorem ungrouped_figure (p : Option Nat) : ∀ s : Scene α,
    s.figure.ungrouped =
      ((slots p s).filter fun q => !q.2.element.kind.isGroup).map (·.2.element)
  | node i e cs => by
    rw [figure, Figure.ungrouped, slots, ungroupedOfAll_figures (some i) cs]
    cases h : e.kind.isGroup <;> simp [h]

theorem ungroupedOfAll_figures (p : Option Nat) : ∀ ss : List (Scene α),
    Figure.ungroupedOfAll (figures ss) =
      ((slotsOfAll p ss).filter fun q => !q.2.element.kind.isGroup).map (·.2.element)
  | [] => rfl
  | s :: ss => by
    rw [figures, Figure.ungroupedOfAll, slotsOfAll, ungrouped_figure p s,
      ungroupedOfAll_figures p ss, filter_append, map_append]

end

end Scene

namespace Arena

variable {a : Arena α} {hollow : Source α → Prop} {ss : List (Source α)}

omit [Scalar α] [Circular α] in
theorem Holds.forall₂_slots {scenes : List (Scene α)} (h : a.Holds scenes)
    {qs : List (Nat × Slot α)} (hqs : qs ⊆ Scene.slotsOfAll none scenes) :
    Forall₂ (fun e i => ∃ t, a.get? i = some t ∧ t.element = e) (qs.map (·.2.element))
      (qs.map (·.1)) := by
  rw [forall₂_map_left_iff, forall₂_map_right_iff, forall₂_same]
  rintro ⟨i, t⟩ hit
  exact ⟨t, h.get? (hqs hit), rfl⟩

theorem Holds.realizes {scenes : List (Scene α)} (h : a.Holds scenes)
    (hm : Source.Matches hollow (Source.ungrouped ss)
      (Figure.ungroupedOfAll (Scene.figures scenes))) : a.Realizes hollow ss := by
  rw [Scene.ungroupedOfAll_figures none] at hm
  obtain ⟨es, hes, hperm⟩ := hm
  have hungrouped : Scene.ungroupedSlots scenes ⊆ Scene.slotsOfAll none scenes :=
    filter_subset_self _
  have hslots := h.forall₂_slots hungrouped
  obtain ⟨is, his, hperm'⟩ := perm_comp_forall₂ hperm hslots
  refine ⟨is, ?_, fun i => ?_, ?_⟩
  · have hsub := (filter_sublist (p := fun q : Nat × Slot α => !q.2.element.kind.isGroup)
      (l := Scene.slotsOfAll none scenes)).map (·.1)
    rw [Scene.slotsOfAll_numbers] at hsub
    exact hperm'.nodup_iff.mpr (h.nodup.sublist hsub)
  · rw [hperm'.mem_iff]
    simp only [Scene.ungroupedSlots, mem_map, mem_filter, Bool.not_eq_true']
    constructor
    · rintro ⟨⟨j, t⟩, ⟨hjt, hg⟩, rfl⟩
      obtain ⟨hj, ht⟩ := h.mem_slots_iff.mp hjt
      exact ⟨hj, t, ht, hg⟩
    · rintro ⟨hi, t, ht, hg⟩
      exact ⟨(i, t), ⟨h.mem_slots_iff.mpr ⟨hi, ht⟩, hg⟩, rfl⟩
  · refine forall₂_comp (fun s e i hse hei => ?_) hes his
    obtain ⟨t, ht, rfl⟩ := hei
    exact ⟨t, ht, hse⟩

end Arena

/-- **Nothing is lost or doubled.** -/
theorem normalize_realizes (o : NormalizeOptions α) (c : Context) (selection : List (HostNode α))
    {a : Arena α} (h : (normalizeInto o c selection).1 = .ok a) :
    a.Realizes Source.IsHollow (HostNode.toSources selection) := by
  obtain ⟨_, rfl⟩ := normalizeSources_eq_ok_iff.mp h
  refine (Arena.restructure_holds o _).realizes ?_
  rw [Scene.figures_eq_map, Source.buildAll_figures]
  exact (Source.matches_induction o).all _

theorem card_realizes : ∃ a, (normalizeInto default .empty card).1 = .ok a ∧
    a.Realizes Source.IsHollow (HostNode.toSources card) :=
  ⟨_, rfl, normalize_realizes default .empty card rfl⟩

/-- No child survives, not even a group that holds nothing. -/
def Source.IsChildless (s : Source α) : Prop := ∀ c ∈ s.children, c.draft.isKept = false

def husk : List (HostNode Float) :=
  [.node (.plain "1" "frame" .frame ⟨0, 0, 100, 100, 0⟩)
    [.node (.plain "2" "group" .group ⟨0, 0, 10, 10, 0⟩) []]]

theorem not_realizes_isChildless :
    ¬∀ (o : NormalizeOptions Float) (c : Context) (selection : List (HostNode Float))
      (a : Arena Float), (normalizeInto o c selection).1 = .ok a →
        a.Realizes Source.IsChildless (HostNode.toSources selection) := by
  intro hall
  obtain ⟨is, _, hmem, hbecomes⟩ := hall default .empty husk _ rfl
  -- one survivor is ungrouped, and what it becomes is a rectangle though it has a child
  have hone : Source.ungrouped (HostNode.toSources husk) = HostNode.toSources husk := rfl
  have hrectangle : Figure.EveryOf (fun e _ => e.kind = .rectangle)
      (Source.figures default (HostNode.toSources husk)) := ⟨⟨rfl, trivial⟩, trivial⟩
  rw [hone] at hbecomes
  cases hbecomes with
  | @cons _ i _ is hi _ =>
    obtain ⟨t, ht, e, he, _, hkind⟩ := hi
    have hreach := ((hmem i).mp mem_cons_self).1
    obtain ⟨f, hf, hfrect⟩ := Arena.exists_unfolds_of_reachable
      (Arena.restructure_unfoldsAll default (HostNode.toSources husk)) hrectangle hreach
    obtain ⟨u, hu, hue, _⟩ := Arena.unfolds_iff.mp hf
    cases ht.symm.trans hu
    rw [hue, (Figure.every_iff.mp hfrect).1] at hkind
    cases he
    cases hkind with
    | emptied hnone => exact absurd (hnone _ mem_cons_self) (by decide)

end Artboard
