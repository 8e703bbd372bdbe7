import Artboard.Normal.InPlace
import Artboard.Proofs.Forest

/-!
# Scenes in an arena

Changing a slot leaves the others alone. An arena shows scenes if it has their slots, and it still
does after changes elsewhere. Scenes come below another slot, or change at the top, by changes to
their topmost slots only.
-/

open List

namespace Artboard

/-! ## Single slots -/

namespace Arena

variable {α : Type} {a a' a'' : Arena α}

theorem get?_store (a : Arena α) (s : Slot α) (j : Nat) :
    (a.store s).get? j = if j = a.size then some s else a.get? j :=
  Array.getElem?_push

theorem get?_modify (a : Arena α) (i : Nat) (f : Slot α → Slot α) (j : Nat) :
    (a.modify i f).get? j = if j = i then (a.get? j).map f else a.get? j := by
  simp only [get?, modify, Array.getElem?_modify, eq_comm]

theorem get?_eq_none {j : Nat} (h : a.size ≤ j) : a.get? j = none := Array.getElem?_eq_none h

@[simp] theorem size_store (a : Arena α) (s : Slot α) : (a.store s).size = a.size + 1 :=
  Array.size_push ..

@[simp] theorem size_modify (a : Arena α) (i : Nat) (f : Slot α → Slot α) :
    (a.modify i f).size = a.size := Array.size_modify

theorem ext_get? (hroots : a.roots = a'.roots) (h : ∀ i, a.get? i = a'.get? i) : a = a' := by
  cases a
  cases a'
  cases hroots
  exact congrArg (Arena.mk · _) (Array.ext_getElem? h)

/-- No slot of the first arena but those in hand is another in the second. -/
structure SameOff (hand : List Nat) (a a' : Arena α) : Prop where
  roots_eq : a'.roots = a.roots
  size_le : a.size ≤ a'.size
  get?_eq : ∀ j < a.size, j ∉ hand → a'.get? j = a.get? j

namespace SameOff

variable {hand hand' : List Nat}

theorem refl (hand : List Nat) (a : Arena α) : SameOff hand a a :=
  ⟨rfl, Nat.le_refl _, fun _ _ _ => rfl⟩

theorem mono (h : SameOff hand a a') (hsub : ∀ j ∈ hand, j < a.size → j ∈ hand') :
    SameOff hand' a a' :=
  ⟨h.roots_eq, h.size_le, fun j hj hnot => h.get?_eq j hj fun hmem => hnot (hsub j hmem hj)⟩

theorem trans (h : SameOff hand a a') (h' : SameOff hand' a' a'')
    (hsub : ∀ j ∈ hand', j < a.size → j ∈ hand) : SameOff hand a a'' := by
  refine ⟨h'.roots_eq.trans h.roots_eq, Nat.le_trans h.size_le h'.size_le, fun j hj hnot => ?_⟩
  rw [h'.get?_eq j (Nat.lt_of_lt_of_le hj h.size_le) fun hmem => hnot (hsub j hmem hj),
    h.get?_eq j hj hnot]

theorem get?_of_some (h : SameOff hand a a') {j : Nat} {s : Slot α} (hs : a.get? j = some s)
    (hj : j ∉ hand) : a'.get? j = some s :=
  (h.get?_eq j (get?_lt hs) hj).trans hs

end SameOff

theorem sameOff_modify (a : Arena α) {hand : List Nat} {i : Nat} (hi : i ∈ hand)
    (f : Slot α → Slot α) : SameOff hand a (a.modify i f) := by
  refine ⟨rfl, Nat.le_of_eq (size_modify ..).symm, fun j _ hj => ?_⟩
  rw [get?_modify, if_neg fun hji : j = i => hj (hji ▸ hi)]

theorem sameOff_store (hand : List Nat) (a : Arena α) (s : Slot α) :
    SameOff hand a (a.store s) := by
  refine ⟨rfl, by simp, fun j hj _ => ?_⟩
  rw [get?_store, if_neg (Nat.ne_of_lt hj)]

end Arena

/-! ## Scenes -/

namespace Scene

variable {α : Type}

def toSlot (p : Option Nat) (s : Scene α) : Slot α := ⟨s.element, p, s.children.map slot⟩

@[simp] theorem slot_mapElement (g : Element α → Element α) (s : Scene α) :
    (s.mapElement g).slot = s.slot := by
  cases s
  rfl

@[simp] theorem slot_shift [Scalar α] (s : Scene α) (dx dy : α) : (s.shift dx dy).slot = s.slot :=
  slot_mapElement ..

@[simp] theorem children_mapElement (g : Element α → Element α) (s : Scene α) :
    (s.mapElement g).children = s.children := by
  cases s
  rfl

theorem map_slot_mapElement (g : Element α → Element α) (ss : List (Scene α)) :
    (ss.map (mapElement g)).map slot = ss.map slot := by
  simp [Function.comp_def]

theorem map_slot_shift [Scalar α] (dx dy : α) (ss : List (Scene α)) :
    (ss.map fun s => s.shift dx dy).map slot = ss.map slot := map_slot_mapElement ..

theorem item_toSlot (p : Option Nat) (s : Scene α) : (s.toSlot p).item = s.item := by
  have hempty : (s.toSlot p).children.isEmpty = s.children.isEmpty := isEmpty_map
  simp only [Slot.item, item, Slot.isPromotable, isPromotable, hempty]
  rfl

theorem numbersOfAll_perm_slots : ∀ ss : List (Scene α),
    numbersOfAll ss ~ ss.map slot ++ ss.flatMap fun s => numbersOfAll s.children
  | [] => Perm.refl _
  | node i e cs :: ss => by
    have ih := (numbersOfAll_perm_slots ss).append_left (numbersOfAll cs)
    rw [numbersOfAll, numbers, map_cons, flatMap_cons]
    exact (ih.trans (perm_append_comm_assoc ..)).cons i

theorem mem_numbersOfAll_of_children {ss : List (Scene α)} {s : Scene α} (hs : s ∈ ss) {j : Nat}
    (hj : j ∈ numbersOfAll s.children) : j ∈ numbersOfAll ss :=
  (numbersOfAll_perm_slots ss).mem_iff.mpr
    (mem_append_right _ (mem_flatMap.mpr ⟨s, hs, hj⟩))

theorem notMem_slots_of_children {ss : List (Scene α)} (h : (numbersOfAll ss).Nodup) {s : Scene α}
    (hs : s ∈ ss) {j : Nat} (hj : j ∈ numbersOfAll s.children) : j ∉ ss.map slot := fun hslot =>
  (nodup_append.mp ((numbersOfAll_perm_slots ss).nodup_iff.mp h)).2.2 j hslot j
    (mem_flatMap.mpr ⟨s, hs, hj⟩) rfl

end Scene

/-! ## Showing scenes -/

namespace Arena

variable {α : Type} {a a' : Arena α} {p p' : Option Nat} {ss : List (Scene α)}

def Shows (a : Arena α) (p : Option Nat) (ss : List (Scene α)) : Prop :=
  ∀ q ∈ Scene.slotsOfAll p ss, a.get? q.1 = some q.2

theorem shows_nil (a : Arena α) (p : Option Nat) : a.Shows p [] := fun _ hq =>
  absurd hq not_mem_nil

theorem shows_append {ts : List (Scene α)} : a.Shows p (ss ++ ts) ↔ a.Shows p ss ∧ a.Shows p ts := by
  have happend : ∀ ss : List (Scene α), Scene.slotsOfAll p (ss ++ ts) =
      Scene.slotsOfAll p ss ++ Scene.slotsOfAll p ts := by
    intro ss
    induction ss with
    | nil => rfl
    | cons s ss ih => rw [cons_append, Scene.slotsOfAll, ih, Scene.slotsOfAll, append_assoc]
  unfold Shows
  rw [happend, forall_mem_append]

theorem shows_singleton {s : Scene α} :
    a.Shows p [s] ↔ a.get? s.slot = some (s.toSlot p) ∧ a.Shows (some s.slot) s.children := by
  obtain ⟨i, e, cs⟩ := s
  unfold Shows
  rw [Scene.slotsOfAll, Scene.slotsOfAll, append_nil, Scene.slots, forall_mem_cons]
  rfl

theorem shows_iff : a.Shows p ss ↔
    ∀ s ∈ ss, a.get? s.slot = some (s.toSlot p) ∧ a.Shows (some s.slot) s.children := by
  induction ss with
  | nil => exact iff_of_true (shows_nil a p) nofun
  | cons s ss ih =>
    rw [← singleton_append, shows_append, forall_mem_append, ih, shows_singleton,
      forall_mem_singleton]

namespace Shows

variable (h : a.Shows p ss)
include h

theorem get?_slot {s : Scene α} (hs : s ∈ ss) : a.get? s.slot = some (s.toSlot p) :=
  (shows_iff.mp h s hs).1

theorem lt {j : Nat} (hj : j ∈ Scene.numbersOfAll ss) : j < a.size := by
  obtain ⟨t, ht⟩ := (Scene.mem_numbersOfAll_iff p).mp hj
  exact get?_lt (h _ ht)

theorem size_notMem : a.size ∉ Scene.numbersOfAll ss := fun hmem => Nat.lt_irrefl _ (h.lt hmem)

theorem subset {ts : List (Scene α)} (hsub : ts ⊆ ss) : a.Shows p ts :=
  shows_iff.mpr fun s hs => shows_iff.mp h s (hsub hs)

theorem congr (hsame : ∀ j ∈ Scene.numbersOfAll ss, a'.get? j = a.get? j) : a'.Shows p ss := by
  intro q hq
  rw [hsame q.1 ((Scene.mem_numbersOfAll_iff p).mpr ⟨q.2, hq⟩)]
  exact h q hq

theorem sameOff {hand : List Nat} (hsame : SameOff hand a a')
    (hhand : ∀ j ∈ Scene.numbersOfAll ss, j ∉ hand) : a'.Shows p ss :=
  h.congr fun j hj => hsame.get?_eq j (h.lt hj) (hhand j hj)

theorem moved (hnodup : (Scene.numbersOfAll ss).Nodup) {g : Element α → Element α}
    (htop : ∀ s ∈ ss, a'.get? s.slot = some ((s.mapElement g).toSlot p'))
    (hsame : ∀ j < a.size, j ∈ Scene.numbersOfAll ss → j ∉ ss.map Scene.slot →
      a'.get? j = a.get? j) :
    a'.Shows p' (ss.map (Scene.mapElement g)) := by
  rw [shows_iff]
  intro s' hs'
  obtain ⟨s, hs, rfl⟩ := mem_map.mp hs'
  rw [Scene.slot_mapElement, Scene.children_mapElement]
  refine ⟨htop s hs, (shows_iff.mp h s hs).2.congr fun j hj => ?_⟩
  have hmem := Scene.mem_numbersOfAll_of_children hs hj
  exact hsame j (h.lt hmem) hmem (Scene.notMem_slots_of_children hnodup hs hj)

end Shows

end Arena

/-! ## Ledgers -/

namespace Ledger

variable {α : Type} {used made : List Nat} {l l' : Ledger α}

theorem Accounts.made_spec (h : Accounts used l made l') (hnodup : used.Nodup)
    (hused : ∀ j ∈ used, j < l.next ∧ j ∉ l.numbers) (hl : ∀ j ∈ l.numbers, j < l.next)
    (hsuffix : l.abandoned <:+ l'.abandoned) :
    made.Nodup ∧ ∀ j ∈ made, j ∉ l'.numbers ∧ (j < l.next → j ∈ used) := by
  have hnumbers : l.numbers <:+ l'.numbers := hsuffix.map _
  -- every number is counted once, in hand, among the abandoned or as new, so it is made once at most
  have hmade : ∀ j ∈ made,
      made.count j = 1 ∧ l'.numbers.count j = 0 ∧ (j < l.next → j ∈ used) := by
    intro j hj
    have hpos := count_pos_iff.mpr hj
    have hbalance := h.balance j
    have hle := hnumbers.sublist.count_le j
    by_cases hmem : j ∈ used
    · have hone := count_eq_one_of_mem hnodup hmem
      have hzero := count_eq_zero_of_not_mem (hused j hmem).2
      have hlt := (hused j hmem).1
      rw [if_neg (by omega)] at hbalance
      exact ⟨by omega, by omega, fun _ => hmem⟩
    · have hzero := count_eq_zero_of_not_mem hmem
      have hge : ¬j < l.next := by
        intro hlt
        rw [if_neg (by omega)] at hbalance
        omega
      have hnot := count_eq_zero_of_not_mem fun hmem' => hge (hl j hmem')
      split at hbalance <;> exact ⟨by omega, by omega, fun hlt => absurd hlt hge⟩
  refine ⟨nodup_iff_count_le_one.mpr fun j => ?_, fun j hj => ?_⟩
  · by_cases hj : j ∈ made
    · exact Nat.le_of_eq (hmade j hj).1
    · rw [count_eq_zero_of_not_mem hj]
      exact Nat.zero_le 1
  · exact ⟨count_eq_zero.mp (hmade j hj).2.1, (hmade j hj).2.2⟩

end Ledger

namespace Arena

variable {α : Type} {a a' : Arena α}

/-- The arena is as large as the ledger says, and has what the ledger holds to be abandoned. -/
structure Mirrors (a : Arena α) (l : Ledger α) : Prop where
  size_eq : a.size = l.next
  get?_eq : ∀ q ∈ l.abandoned, a.get? q.1 = some q.2

namespace Mirrors

variable {l : Ledger α}

theorem sameOff (h : a.Mirrors l) {hand : List Nat} (hsame : SameOff hand a a')
    (hhand : ∀ j ∈ hand, j ∉ l.numbers) : ∀ q ∈ l.abandoned, a'.get? q.1 = some q.2 :=
  fun q hq => hsame.get?_of_some (h.get?_eq q hq) fun hmem => hhand _ hmem (mem_map_of_mem hq)

theorem lt (h : a.Mirrors l) {i : Nat} (hi : i ∈ l.numbers) : i < l.next := by
  obtain ⟨q, hq, rfl⟩ := mem_map.mp hi
  exact h.size_eq ▸ get?_lt (h.get?_eq q hq)

end Mirrors

end Arena

end Artboard
