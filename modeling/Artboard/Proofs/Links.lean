import Artboard.Proofs.Numbering
import Mathlib.Logic.Relation

/-!
# Scenes in an arena

An arena holds scenes if each of their slots is found under its number. What is reachable from its
roots is then what the scenes number, and the links say of the scenes what their shape says.
-/

open List

namespace Artboard

/-! ## Slots of scenes -/

namespace Scene

variable {α : Type}

theorem mem_numbersOfAll_iff (p : Option Nat) {ss : List (Scene α)} {i : Nat} :
    i ∈ numbersOfAll ss ↔ ∃ t, (i, t) ∈ slotsOfAll p ss := by
  rw [← slotsOfAll_numbers p, mem_map]
  exact ⟨fun ⟨q, hq, hi⟩ => ⟨q.2, by rw [← hi]; exact hq⟩, fun ⟨t, ht⟩ => ⟨(i, t), ht, rfl⟩⟩

theorem slot_mem_slots (p : Option Nat) (s : Scene α) :
    (s.slot, ⟨s.element, p, s.children.map slot⟩) ∈ slots p s := by
  cases s
  exact mem_cons_self

theorem slots_subset {p : Option Nat} {s : Scene α} {ss : List (Scene α)} (hs : s ∈ ss) :
    slots p s ⊆ slotsOfAll p ss := by
  induction ss with
  | nil => cases hs
  | cons t ss ih =>
    rw [slotsOfAll]
    rcases mem_cons.mp hs with rfl | hs
    · exact subset_append_left ..
    · exact List.Subset.trans (ih hs) (subset_append_right ..)

theorem map_slot_sublist : ∀ ss : List (Scene α), ss.map slot <+ numbersOfAll ss
  | [] => Sublist.slnil
  | node i e cs :: ss => by
    rw [map_cons, numbersOfAll, numbers, cons_append]
    exact ((map_slot_sublist ss).trans (sublist_append_right ..)).cons_cons i

mutual

theorem pair_sublist_numbers (p : Option Nat) : ∀ (s : Scene α) {i c : Nat} {t : Slot α},
    (i, t) ∈ slots p s → c ∈ t.children → [i, c] <+ s.numbers
  | node k e cs, i, c, t, ht, hc => by
    rw [slots] at ht
    rw [numbers]
    rcases mem_cons.mp ht with h | h
    · cases h
      exact (singleton_sublist.mpr ((map_slot_sublist cs).subset hc)).cons_cons k
    · exact (pair_sublist_numbersOfAll (some k) cs h hc).cons k

theorem pair_sublist_numbersOfAll (p : Option Nat) : ∀ (ss : List (Scene α)) {i c : Nat} {t : Slot α},
    (i, t) ∈ slotsOfAll p ss → c ∈ t.children → [i, c] <+ numbersOfAll ss
  | [], _, _, _, ht, _ => by cases ht
  | s :: ss, i, c, t, ht, hc => by
    rw [slotsOfAll] at ht
    rw [numbersOfAll]
    rcases mem_append.mp ht with h | h
    · exact (pair_sublist_numbers p s h hc).trans (sublist_append_left ..)
    · exact (pair_sublist_numbersOfAll p ss h hc).trans (sublist_append_right ..)

end

mutual

theorem children_sublist_numbers (p : Option Nat) : ∀ (s : Scene α) {i : Nat} {t : Slot α},
    (i, t) ∈ slots p s → t.children <+ s.numbers
  | node k e cs, i, t, ht => by
    rw [slots] at ht
    rw [numbers]
    rcases mem_cons.mp ht with h | h
    · cases h
      exact (map_slot_sublist cs).cons k
    · exact (children_sublist_numbersOfAll (some k) cs h).cons k

theorem children_sublist_numbersOfAll (p : Option Nat) : ∀ (ss : List (Scene α)) {i : Nat}
    {t : Slot α}, (i, t) ∈ slotsOfAll p ss → t.children <+ numbersOfAll ss
  | [], _, _, ht => by cases ht
  | s :: ss, i, t, ht => by
    rw [slotsOfAll] at ht
    rw [numbersOfAll]
    rcases mem_append.mp ht with h | h
    · exact (children_sublist_numbers p s h).trans (sublist_append_left ..)
    · exact (children_sublist_numbersOfAll p ss h).trans (sublist_append_right ..)

end

mutual

theorem exists_slot_of_child (p : Option Nat) : ∀ (s : Scene α) {i c : Nat} {t : Slot α},
    (i, t) ∈ slots p s → c ∈ t.children → ∃ u, (c, u) ∈ slots p s ∧ u.parent = some i
  | node k e cs, i, c, t, ht, hc => by
    rw [slots] at ht ⊢
    rcases mem_cons.mp ht with h | h
    · cases h
      obtain ⟨s, hs, rfl⟩ := mem_map.mp hc
      exact ⟨_, mem_cons_of_mem _ (slots_subset hs (slot_mem_slots _ s)), rfl⟩
    · obtain ⟨u, hu, hp⟩ := exists_slot_of_child_ofAll (some k) cs h hc
      exact ⟨u, mem_cons_of_mem _ hu, hp⟩

theorem exists_slot_of_child_ofAll (p : Option Nat) : ∀ (ss : List (Scene α)) {i c : Nat}
    {t : Slot α}, (i, t) ∈ slotsOfAll p ss → c ∈ t.children →
      ∃ u, (c, u) ∈ slotsOfAll p ss ∧ u.parent = some i
  | [], _, _, _, ht, _ => by cases ht
  | s :: ss, i, c, t, ht, hc => by
    rw [slotsOfAll] at ht ⊢
    rcases mem_append.mp ht with h | h
    · obtain ⟨u, hu, hp⟩ := exists_slot_of_child p s h hc
      exact ⟨u, mem_append_left _ hu, hp⟩
    · obtain ⟨u, hu, hp⟩ := exists_slot_of_child_ofAll p ss h hc
      exact ⟨u, mem_append_right _ hu, hp⟩

end

mutual

theorem root_or_listed (p : Option Nat) : ∀ (s : Scene α) {i : Nat} {t : Slot α},
    (i, t) ∈ slots p s →
      (i = s.slot ∧ t.parent = p) ∨ ∃ q u, (q, u) ∈ slots p s ∧ i ∈ u.children
  | node k e cs, i, t, ht => by
    rw [slots] at ht ⊢
    rcases mem_cons.mp ht with h | h
    · cases h
      exact .inl ⟨rfl, rfl⟩
    · rcases root_or_listed_ofAll (some k) cs h with ⟨hi, _⟩ | ⟨q, u, hu, hi⟩
      · exact .inr ⟨k, _, mem_cons_self, hi⟩
      · exact .inr ⟨q, u, mem_cons_of_mem _ hu, hi⟩

theorem root_or_listed_ofAll (p : Option Nat) : ∀ (ss : List (Scene α)) {i : Nat} {t : Slot α},
    (i, t) ∈ slotsOfAll p ss →
      (i ∈ ss.map slot ∧ t.parent = p) ∨ ∃ q u, (q, u) ∈ slotsOfAll p ss ∧ i ∈ u.children
  | [], _, _, ht => by cases ht
  | s :: ss, i, t, ht => by
    rw [slotsOfAll] at ht ⊢
    rcases mem_append.mp ht with h | h
    · rcases root_or_listed p s h with ⟨hi, hp⟩ | ⟨q, u, hu, hi⟩
      · exact .inl ⟨mem_cons.mpr (.inl hi), hp⟩
      · exact .inr ⟨q, u, mem_append_left _ hu, hi⟩
    · rcases root_or_listed_ofAll p ss h with ⟨hi, hp⟩ | ⟨q, u, hu, hi⟩
      · exact .inl ⟨mem_cons_of_mem _ hi, hp⟩
      · exact .inr ⟨q, u, mem_append_right _ hu, hi⟩

end

end Scene

/-! ## Links of an arena -/

namespace Arena

variable {α : Type}

inductive Reachable (a : Arena α) : Nat → Prop
  | root {i : Nat} (hi : i ∈ a.roots) : Reachable a i
  | child {p c : Nat} {s : Slot α} (hp : Reachable a p) (hs : a.get? p = some s)
      (hc : c ∈ s.children) : Reachable a c

/-- The slot `p` has `c` among its children. -/
def Lists (a : Arena α) (p c : Nat) : Prop := ∃ s, a.get? p = some s ∧ c ∈ s.children

/-- The slot `c` has `p` as its parent. -/
def Names (a : Arena α) (c p : Nat) : Prop := ∃ s, a.get? c = some s ∧ s.parent = some p

variable {a : Arena α}

mutual

theorem reachable_of_mem_slots (p : Option Nat) : ∀ (s : Scene α),
    (∀ {i t}, (i, t) ∈ Scene.slots p s → a.get? i = some t) → a.Reachable s.slot →
      ∀ {i t}, (i, t) ∈ Scene.slots p s → a.Reachable i
  | .node k e cs, hget, hk, i, t, hi => by
    rw [Scene.slots] at hi hget
    rcases mem_cons.mp hi with h | h
    · cases h
      exact hk
    · refine reachable_of_mem_slotsOfAll (some k) cs (fun hm => hget (mem_cons_of_mem _ hm)) ?_ h
      intro j hj
      exact .child hk (hget mem_cons_self) hj

theorem reachable_of_mem_slotsOfAll (p : Option Nat) : ∀ (ss : List (Scene α)),
    (∀ {i t}, (i, t) ∈ Scene.slotsOfAll p ss → a.get? i = some t) →
      (∀ j ∈ ss.map Scene.slot, a.Reachable j) →
        ∀ {i t}, (i, t) ∈ Scene.slotsOfAll p ss → a.Reachable i
  | [], _, _, _, _, hi => by cases hi
  | s :: ss, hget, hslots, i, t, hi => by
    rw [Scene.slotsOfAll] at hi hget
    rw [map_cons] at hslots
    rcases mem_append.mp hi with h | h
    · exact reachable_of_mem_slots p s (fun hm => hget (mem_append_left _ hm))
        (hslots _ mem_cons_self) h
    · exact reachable_of_mem_slotsOfAll p ss (fun hm => hget (mem_append_right _ hm))
        (fun j hj => hslots j (mem_cons_of_mem _ hj)) h

end

structure Holds (a : Arena α) (scenes : List (Scene α)) : Prop where
  roots_eq : a.roots = scenes.map Scene.slot
  nodup : (Scene.numbersOfAll scenes).Nodup
  get? : ∀ {i s}, (i, s) ∈ Scene.slotsOfAll none scenes → a.get? i = some s

namespace Holds

variable {a : Arena α} {scenes : List (Scene α)} (h : a.Holds scenes)
include h

theorem mem_slots {i : Nat} {s : Slot α} (hi : i ∈ Scene.numbersOfAll scenes)
    (hs : a.get? i = some s) : (i, s) ∈ Scene.slotsOfAll none scenes := by
  obtain ⟨t, ht⟩ := (Scene.mem_numbersOfAll_iff none).mp hi
  cases (h.get? ht).symm.trans hs
  exact ht

theorem mem_of_lists {p c : Nat} (hp : p ∈ Scene.numbersOfAll scenes) (hc : a.Lists p c) :
    c ∈ Scene.numbersOfAll scenes := by
  obtain ⟨s, hs, hc⟩ := hc
  obtain ⟨u, hu, _⟩ := Scene.exists_slot_of_child_ofAll none scenes (h.mem_slots hp hs) hc
  exact (Scene.mem_numbersOfAll_iff none).mpr ⟨u, hu⟩

theorem mem_of_reachable {i : Nat} (hi : a.Reachable i) : i ∈ Scene.numbersOfAll scenes := by
  induction hi with
  | root hi =>
    rw [h.roots_eq] at hi
    exact (Scene.map_slot_sublist scenes).subset hi
  | child _ hs hc ih => exact h.mem_of_lists ih ⟨_, hs, hc⟩

theorem mem_slots_iff {i : Nat} {s : Slot α} :
    (i, s) ∈ Scene.slotsOfAll none scenes ↔ a.Reachable i ∧ a.get? i = some s := by
  constructor
  · intro hi
    refine ⟨reachable_of_mem_slotsOfAll none scenes h.get? ?_ hi, h.get? hi⟩
    intro j hj
    exact .root (by rwa [h.roots_eq])
  · rintro ⟨hi, hs⟩
    exact h.mem_slots (h.mem_of_reachable hi) hs

theorem names_of_lists {p c : Nat} (hp : a.Reachable p) (hc : a.Lists p c) : a.Names c p := by
  obtain ⟨s, hs, hc⟩ := hc
  have ht := h.mem_slots (h.mem_of_reachable hp) hs
  obtain ⟨u, hu, hparent⟩ := Scene.exists_slot_of_child_ofAll none scenes ht hc
  exact ⟨u, h.get? hu, hparent⟩

theorem parent_of_root {i : Nat} (hi : i ∈ a.roots) : ∃ s, a.get? i = some s ∧ s.parent = none := by
  rw [h.roots_eq] at hi
  obtain ⟨s, hs, rfl⟩ := mem_map.mp hi
  exact ⟨_, h.get? (Scene.slots_subset hs (Scene.slot_mem_slots none s)), rfl⟩

theorem pair_sublist_of_lists {p c : Nat} (hp : a.Reachable p) (hc : a.Lists p c) :
    [p, c] <+ Scene.numbersOfAll scenes := by
  obtain ⟨s, hs, hc⟩ := hc
  exact Scene.pair_sublist_numbersOfAll none scenes (h.mem_slots (h.mem_of_reachable hp) hs) hc

end Holds

end Arena

end Artboard
