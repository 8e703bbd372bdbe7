import Artboard.Proofs.Gathering
import Artboard.Proofs.Links
import Mathlib.Data.List.Sort

/-!
# A normalized tree is a forest

The arena of a run holds the scenes of its build, however many slots were abandoned on the way. So
every reachable slot has one place: it is a root, or one slot lists it once and is its parent.
-/

open List Relation

namespace Artboard

namespace Arena

variable {α : Type}

/-! ## Finding slots -/

theorem sorted_numbers {numbered : List (Nat × Slot α)} {n : Nat}
    (h : numbered.map (·.1) ~ List.range n) :
    (numbered.mergeSort fun p q => p.1 ≤ q.1).map (·.1) = List.range n := by
  have hsorted : (numbered.mergeSort fun p q => p.1 ≤ q.1).Pairwise fun p q => p.1 ≤ q.1 := by
    have := @pairwise_mergeSort _ (fun p q : Nat × Slot α => decide (p.1 ≤ q.1))
      (fun a b c hab hbc => by simp only [decide_eq_true_eq] at *; omega)
      (fun a b => by simp only [Bool.or_eq_true, decide_eq_true_eq]; omega) numbered
    simpa using this
  have hperm := ((mergeSort_perm numbered fun p q => p.1 ≤ q.1).map (·.1)).trans h
  refine hperm.eq_of_pairwise (fun a b _ _ hab hba => Nat.le_antisymm hab hba) ?_ ?_
  · exact pairwise_map.mpr hsorted
  · exact pairwise_le_range

theorem get?_ofSlots {numbered : List (Nat × Slot α)} {n : Nat} (roots : List Nat)
    (h : numbered.map (·.1) ~ List.range n) {i : Nat} {s : Slot α} (hs : (i, s) ∈ numbered) :
    (ofSlots numbered roots).get? i = some s := by
  have hnum := sorted_numbers h
  obtain ⟨k, hk⟩ := mem_iff_getElem?.mp
    ((mergeSort_perm numbered fun p q => p.1 ≤ q.1).mem_iff.mpr hs)
  have hi : (List.range n)[k]? = some i := by rw [← hnum, getElem?_map, hk]; rfl
  have hki : k = i := by
    obtain ⟨hlt, he⟩ := List.getElem?_eq_some_iff.mp hi
    simpa using he
  subst hki
  simp only [get?, ofSlots, List.getElem?_toArray, getElem?_map, hk, Option.map_some]

variable [Scalar α] [Circular α] (o : NormalizeOptions α)

theorem numbers_perm_range (ss : List (Source α)) :
    (Scene.slotsOfAll none (Source.buildAll o none ss ⟨0, []⟩).1 ++
        (Source.buildAll o none ss ⟨0, []⟩).2.abandoned).map (·.1) ~
      List.range (Source.buildAll o none ss ⟨0, []⟩).2.next := by
  rw [map_append, Scene.slotsOfAll_numbers]
  exact (Source.buildAll_accounts o none ss ⟨0, []⟩).perm_range

/-- **The arena of a run holds its scenes.** -/
theorem restructure_holds (ss : List (Source α)) :
    (restructure o ss).Holds (Source.buildAll o none ss ⟨0, []⟩).1 where
  roots_eq := rfl
  nodup := by
    have hall := (numbers_perm_range o ss).nodup_iff.mpr nodup_range
    rw [map_append, Scene.slotsOfAll_numbers] at hall
    exact hall.of_append_left
  get? := fun hs => get?_ofSlots _ (numbers_perm_range o ss) (mem_append_left _ hs)

end Arena

/-! ## Forests -/

namespace Arena

variable {α : Type}

/-- The part of an arena that is reachable from its roots is a forest. -/
structure IsForest (a : Arena α) : Prop where
  root_lt : ∀ i ∈ a.roots, i < a.size
  child_lt : ∀ p c, a.Reachable p → a.Lists p c → c < a.size
  roots_nodup : a.roots.Nodup
  parent_of_root : ∀ i ∈ a.roots, ∃ s, a.get? i = some s ∧ s.parent = none
  listed : ∀ c, a.Reachable c → c ∉ a.roots → ∃! p, a.Reachable p ∧ a.Lists p c
  listed_once : ∀ p s, a.Reachable p → a.get? p = some s → ∀ c ∈ s.children, s.children.count c = 1
  /-- A listed slot names the one that lists it as its parent; so no root is listed. -/
  names_of_lists : ∀ p c, a.Reachable p → a.Lists p c → a.Names c p
  acyclic : ∀ i, a.Reachable i → ¬TransGen a.Lists i i
  acyclic_up : ∀ i, a.Reachable i → ¬TransGen a.Names i i

theorem get?_lt {a : Arena α} {i : Nat} {s : Slot α} (h : a.get? i = some s) : i < a.size := by
  obtain ⟨hlt, _⟩ := Array.getElem?_eq_some_iff.mp h
  exact hlt

theorem idxOf_lt_idxOf {l : List Nat} (hl : l.Nodup) {i c : Nat} (h : [i, c] <+ l) :
    l.idxOf i < l.idxOf c := by
  obtain ⟨l₁, l₂, rfl, hi, hc⟩ := cons_sublist_iff.mp h
  have hc' := singleton_sublist.mp hc
  have hnot : c ∉ l₁ := fun hmem => (disjoint_of_nodup_append hl) hmem hc'
  rw [idxOf_append_of_mem hi, idxOf_append_of_notMem hnot]
  exact Nat.lt_of_lt_of_le (idxOf_lt_length_of_mem hi) (Nat.le_add_right ..)

namespace Holds

variable {a : Arena α} {scenes : List (Scene α)} (h : a.Holds scenes)
include h

theorem lists_of_names {c p : Nat} (hc : a.Reachable c) (hp : a.Names c p) : a.Lists p c := by
  obtain ⟨t, ht, hparent⟩ := hp
  have hmem := h.mem_slots (h.mem_of_reachable hc) ht
  rcases Scene.root_or_listed_ofAll none scenes hmem with ⟨_, hnone⟩ | ⟨q, u, hu, hcu⟩
  · rw [hnone] at hparent
    cases hparent
  · obtain ⟨t', ht', hq⟩ := Scene.exists_slot_of_child_ofAll none scenes hu hcu
    cases (h.get? ht').symm.trans ht
    cases hq.symm.trans hparent
    exact ⟨u, h.get? hu, hcu⟩

theorem listed {c : Nat} (hc : a.Reachable c) (hroot : c ∉ a.roots) :
    ∃! p, a.Reachable p ∧ a.Lists p c := by
  cases hc with
  | root hi => exact absurd hi hroot
  | @child p _ s hp hs hmem =>
    refine ⟨p, ⟨hp, s, hs, hmem⟩, fun q ⟨hq, hlists⟩ => ?_⟩
    obtain ⟨t, ht, hparent⟩ := h.names_of_lists hp ⟨s, hs, hmem⟩
    obtain ⟨t', ht', hparent'⟩ := h.names_of_lists hq hlists
    cases ht.symm.trans ht'
    exact Option.some.inj (hparent'.symm.trans hparent)

theorem reachable_of_names {c p : Nat} (hc : a.Reachable c) (hp : a.Names c p) : a.Reachable p := by
  obtain ⟨t, ht, hparent⟩ := hp
  cases hc with
  | root hi =>
    obtain ⟨s, hs, hnone⟩ := h.parent_of_root hi
    cases hs.symm.trans ht
    rw [hnone] at hparent
    cases hparent
  | @child q _ s hq hs hmem =>
    obtain ⟨t', ht', hparent'⟩ := h.names_of_lists hq ⟨s, hs, hmem⟩
    cases ht'.symm.trans ht
    cases hparent'.symm.trans hparent
    exact hq

theorem idxOf_lt_of_lists {p c : Nat} (hp : a.Reachable p) (hc : a.Lists p c) :
    (Scene.numbersOfAll scenes).idxOf p < (Scene.numbersOfAll scenes).idxOf c :=
  idxOf_lt_idxOf h.nodup (h.pair_sublist_of_lists hp hc)

theorem idxOf_lt_of_transGen_lists {i j : Nat} (hi : a.Reachable i) (hij : TransGen a.Lists i j) :
    a.Reachable j ∧
      (Scene.numbersOfAll scenes).idxOf i < (Scene.numbersOfAll scenes).idxOf j := by
  induction hij with
  | single hij =>
    obtain ⟨s, hs, hmem⟩ := hij
    exact ⟨.child hi hs hmem, h.idxOf_lt_of_lists hi ⟨s, hs, hmem⟩⟩
  | tail _ hjk ih =>
    obtain ⟨s, hs, hmem⟩ := hjk
    exact ⟨.child ih.1 hs hmem, Nat.lt_trans ih.2 (h.idxOf_lt_of_lists ih.1 ⟨s, hs, hmem⟩)⟩

theorem idxOf_lt_of_transGen_names {i j : Nat} (hi : a.Reachable i) (hij : TransGen a.Names i j) :
    a.Reachable j ∧
      (Scene.numbersOfAll scenes).idxOf j < (Scene.numbersOfAll scenes).idxOf i := by
  have step : ∀ {c p}, a.Reachable c → a.Names c p → a.Reachable p ∧
      (Scene.numbersOfAll scenes).idxOf p < (Scene.numbersOfAll scenes).idxOf c := by
    intro c p hc hp
    have hreach := h.reachable_of_names hc hp
    exact ⟨hreach, h.idxOf_lt_of_lists hreach (h.lists_of_names hc hp)⟩
  induction hij with
  | single hij => exact step hi hij
  | tail _ hjk ih =>
    have hk := step ih.1 hjk
    exact ⟨hk.1, Nat.lt_trans hk.2 ih.2⟩

theorem isForest : a.IsForest where
  root_lt := by
    intro i hi
    obtain ⟨s, hs, _⟩ := h.parent_of_root hi
    exact get?_lt hs
  child_lt := by
    intro p c hp hc
    obtain ⟨t, ht, _⟩ := h.names_of_lists hp hc
    exact get?_lt ht
  roots_nodup := by
    rw [h.roots_eq]
    exact h.nodup.sublist (Scene.map_slot_sublist scenes)
  parent_of_root := fun _ => h.parent_of_root
  listed := fun _ => h.listed
  listed_once := by
    intro p s hp hs c hc
    have ht := h.mem_slots (h.mem_of_reachable hp) hs
    exact count_eq_one_of_mem
      (h.nodup.sublist (Scene.children_sublist_numbersOfAll none scenes ht)) hc
  names_of_lists := fun _ _ => h.names_of_lists
  acyclic := fun _ hi hcycle => Nat.lt_irrefl _ (h.idxOf_lt_of_transGen_lists hi hcycle).2
  acyclic_up := fun _ hi hcycle => Nat.lt_irrefl _ (h.idxOf_lt_of_transGen_names hi hcycle).2

end Holds

end Arena

/-! ## The result of a run -/

/-- **Normalization gives a forest.** -/
theorem normalize_isForest {α : Type} [Scalar α] [Circular α] (o : NormalizeOptions α) (c : Context)
    (selection : List (HostNode α)) {a : Arena α} (h : (normalizeInto o c selection).1 = .ok a) :
    a.IsForest := by
  obtain ⟨_, rfl⟩ := normalizeSources_eq_ok_iff.mp h
  exact (Arena.restructure_holds o _).isForest

/-- A card with a badge, a group of a back and what lies on it, and with a frame that is empty. -/
def card : List (HostNode Float) :=
  [.node (.plain "1" "card" .frame ⟨0, 0, 100, 100, 0⟩)
    [.node (.plain "2" "badge" .group ⟨10, 10, 50, 50, 0⟩)
      [.node (.plain "3" "back" .rectangle ⟨0, 0, 50, 50, 0⟩) [],
        .node (.plain "4" "lone" .group ⟨5, 5, 10, 10, 0⟩)
          [.node (.plain "5" "dot" .ellipse ⟨0, 0, 10, 10, 0⟩) []],
        .node (.plain "6" "rule" .line ⟨5, 30, 20, 0, 0⟩) []],
      .node (.plain "7" "gap" .frame ⟨10, 70, 50, 20, 0⟩) []]]

theorem card_isForest : ∃ a, (normalizeInto default .empty card).1 = .ok a ∧ a.IsForest :=
  ⟨_, rfl, normalize_isForest default .empty card rfl⟩

end Artboard
