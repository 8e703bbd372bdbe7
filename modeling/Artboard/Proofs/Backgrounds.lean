import Artboard.Layout.Inference
import Artboard.Number.Decimal

/-!
# Which child is a background

Two running maxima look for the widest and the tallest child. A maximum that starts at the child
painted first stays there as long as nothing greater comes and never comes back to it, so what a
background is can be said without them, also of numbers that no comparison puts in order.
-/

open List

namespace Artboard

namespace Inference

variable {α : Type} [Scalar α]

/-! ## Running maxima -/

namespace firstMax

variable {key : Item α → α}

theorem le_go : ∀ (items : List (Item α)) {i best : Nat} (value : α), best ≤ i →
    best ≤ go key items i best value
  | [], _, best, _, _ => Nat.le_refl best
  | a :: items, i, best, value, h => by
    by_cases ha : key a ≤ value
    · rw [go, if_pos ha]
      exact le_go items value (Nat.le_succ_of_le h)
    · rw [go, if_neg ha]
      exact Nat.le_trans h (le_go items (key a) (Nat.le_succ i))

/-- A maximum stays where it is if nothing behind it is greater. Once it has moved it is further
back than before, whatever the new value is. -/
theorem go_eq_iff : ∀ (items : List (Item α)) {i best : Nat} (value : α), best < i →
    (go key items i best value = best ↔ ∀ a ∈ items, key a ≤ value)
  | [], _, _, _, _ => by simp [go]
  | a :: items, i, best, value, h => by
    by_cases ha : key a ≤ value
    · rw [go, if_pos ha, go_eq_iff items value (Nat.lt_succ_of_lt h), forall_mem_cons]
      exact (and_iff_right ha).symm
    · have hmoved : i ≤ go key items (i + 1) i (key a) := le_go items (key a) (Nat.le_succ i)
      rw [go, if_neg ha, forall_mem_cons]
      constructor
      · intro hgo
        omega
      · intro hall
        exact absurd hall.1 ha

end firstMax

theorem firstMax_eq_zero_iff {key : Item α → α} (a : Item α) (items : List (Item α)) :
    firstMax key (a :: items) = some 0 ↔ ∀ b ∈ items, key b ≤ key a := by
  rw [firstMax, Option.some.injEq]
  exact firstMax.go_eq_iff items (key a) Nat.zero_lt_one

end Inference

/-! ## What lies behind -/

theorem Box.contains_iff {α : Type} [Scalar α] {b c : Box α} {tolerance : α} :
    b.contains c tolerance = true ↔ ∀ axis,
      b.start axis - tolerance ≤ c.start axis ∧ c.stop axis ≤ b.stop axis + tolerance := by
  simp only [contains, Bool.and_eq_true, decide_eq_true_eq]
  constructor
  · rintro ⟨⟨⟨hx, hy⟩, hright⟩, hbottom⟩ axis
    cases axis with
    | horizontal => exact ⟨hx, hright⟩
    | vertical => exact ⟨hy, hbottom⟩
  · intro h
    exact ⟨⟨⟨(h .horizontal).1, (h .vertical).1⟩, (h .horizontal).2⟩, (h .vertical).2⟩

structure Item.LiesBehind {α : Type} [Scalar α] (tolerance : α) (a b : Item α) : Prop where
  width : b.box.width ≤ a.box.width
  height : b.box.height ≤ a.box.height
  contains : a.box.contains b.box tolerance = true

namespace Inference

variable {α : Type} [Scalar α] {t : Tolerances α}

theorem background_cons_eq_some_iff {a : Item α} {items : List (Item α)} {k : Nat} :
    background t (a :: items) = some k ↔ k = 0 ∧ items ≠ [] ∧ a.promotable = true ∧
      ∀ b ∈ items, a.LiesBehind t.containment b := by
  constructor
  · intro h
    simp only [background, Option.bind_eq_bind, Option.bind_eq_some_iff] at h
    -- the first item is widest and tallest if no other is strictly wider or taller
    obtain ⟨widest, hwidest, tallest, htallest, c, hc, h⟩ := h
    split at h
    · rename_i hcond
      simp only [Bool.and_eq_true, decide_eq_true_eq, beq_iff_eq, all_eq_true] at hcond
      obtain ⟨⟨⟨⟨htwo, rfl⟩, rfl⟩, hpromotable⟩, hcontains⟩ := hcond
      cases h
      cases hc
      rw [firstMax_eq_zero_iff] at hwidest htallest
      refine ⟨rfl, ?_, hpromotable, fun b hb => ⟨hwidest b hb, htallest b hb, hcontains b hb⟩⟩
      rintro rfl
      simp at htwo
    · cases h
  · rintro ⟨rfl, hne, hpromotable, hbehind⟩
    have hwidest := (firstMax_eq_zero_iff a items).mpr fun b hb => (hbehind b hb).width
    have htallest := (firstMax_eq_zero_iff a items).mpr fun b hb => (hbehind b hb).height
    have hone : 1 ≤ items.length := length_pos_iff.mpr hne
    have hcontains : ∀ b ∈ items, a.box.contains b.box t.containment = true :=
      fun b hb => (hbehind b hb).contains
    simpa [background, hwidest, htallest, hone, hpromotable] using hcontains

theorem background_map {f : Item α → Item α} (hpromotable : ∀ a, (f a).promotable = a.promotable)
    (hf : ∀ a b, (f a).LiesBehind t.containment (f b) ↔ a.LiesBehind t.containment b)
    (items : List (Item α)) : background t (items.map f) = background t items := by
  cases items with
  | nil => rfl
  | cons a items =>
    refine Option.ext fun k => ?_
    rw [map_cons, background_cons_eq_some_iff, background_cons_eq_some_iff, ne_eq, map_eq_nil_iff,
      forall_mem_map, hpromotable]
    simp only [hf]

/-- Painted first, promotable, and behind every other child, of which there is at least one. -/
def HasBackground (t : Tolerances α) (items : List (Item α)) : Prop :=
  2 ≤ items.length ∧ ∃ a, items[0]? = some a ∧ a.promotable = true ∧
    ∀ i b, i ≠ 0 → items[i]? = some b → a.LiesBehind t.containment b

theorem hasBackground_cons_iff {a : Item α} {items : List (Item α)} :
    HasBackground t (a :: items) ↔ items ≠ [] ∧ a.promotable = true ∧
      ∀ b ∈ items, a.LiesBehind t.containment b := by
  have hlength : 2 ≤ (a :: items).length ↔ items ≠ [] := by
    rw [← length_pos_iff, length_cons]
    omega
  rw [HasBackground, hlength]
  refine and_congr_right fun _ => ?_
  constructor
  · rintro ⟨a', ha', hpromotable, hbehind⟩
    cases ha'
    refine ⟨hpromotable, fun b hb => ?_⟩
    obtain ⟨i, hi⟩ := mem_iff_getElem?.mp hb
    exact hbehind (i + 1) b (Nat.succ_ne_zero i) hi
  · rintro ⟨hpromotable, hbehind⟩
    refine ⟨a, rfl, hpromotable, fun i b hi hb => ?_⟩
    obtain ⟨j, rfl⟩ := Nat.exists_eq_succ_of_ne_zero hi
    exact hbehind b (mem_of_getElem? hb)

theorem background_eq_some_iff {items : List (Item α)} {k : Nat} :
    background t items = some k ↔ k = 0 ∧ HasBackground t items := by
  cases items with
  | nil =>
    constructor
    · intro h
      cases h
    · rintro ⟨_, htwo, _⟩
      cases htwo
  | cons a items => rw [background_cons_eq_some_iff, hasBackground_cons_iff]

theorem background_cases (t : Tolerances α) (items : List (Item α)) : background t items = none ∨
    ∃ a rest, items = a :: rest ∧ background t (a :: rest) = some 0 := by
  cases hb : background t items with
  | none => exact .inl rfl
  | some k =>
    obtain ⟨rfl, _⟩ := background_eq_some_iff.mp hb
    cases items with
    | nil => cases hb
    | cons a rest => exact .inr ⟨a, rest, rfl, hb⟩

/-- **The background is the child painted first if that lies behind all others, and otherwise there
is none.** -/
theorem background_iff (t : Tolerances α) (items : List (Item α)) :
    (∀ k, background t items = some k ↔ k = 0 ∧ HasBackground t items) ∧
      (background t items = none ↔ ¬HasBackground t items) := by
  refine ⟨fun k => background_eq_some_iff, ?_⟩
  rw [Option.eq_none_iff_forall_ne_some]
  constructor
  · intro hnone hback
    exact hnone 0 (background_eq_some_iff.mpr ⟨rfl, hback⟩)
  · intro hback k hk
    exact hback (background_eq_some_iff.mp hk).2

example : background (default : Tolerances Float)
    [⟨⟨0, 0, 10, 10⟩, true⟩, ⟨⟨1, 1, 0 / 0, 2⟩, true⟩] = none := by decide +kernel

end Inference

end Artboard
