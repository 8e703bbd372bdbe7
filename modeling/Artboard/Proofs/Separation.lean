import Artboard.Proofs.Sorting
import Mathlib.Tactic.Linarith

/-!
# Boxes that lie apart

Whether boxes form a row or a column is asked of neighbours only, once the boxes are sorted. With
exact numbers, and boxes larger than the overlap that is tolerated, the answer is about any two boxes:
no overlap is hidden between boxes that are no neighbours, and the order of the boxes plays no part.
-/

open List

namespace Artboard

namespace Box

variable {tolerance : Rat} {axis : Axis} {b c d : Box Rat}

theorem stop_eq (axis : Axis) (b : Box Rat) : b.stop axis = b.start axis + b.extent axis := by
  cases axis <;> rfl

/-- The first box is over where the second begins, give or take the tolerance. -/
def IsBefore (tolerance : Rat) (axis : Axis) (b c : Box Rat) : Prop :=
  b.stop axis - tolerance ≤ c.start axis

def IsApart (tolerance : Rat) (axis : Axis) (b c : Box Rat) : Prop :=
  b.IsBefore tolerance axis c ∨ c.IsBefore tolerance axis b

instance : Decidable (b.IsBefore tolerance axis c) :=
  inferInstanceAs (Decidable (b.stop axis - tolerance ≤ c.start axis))

instance : Decidable (b.IsApart tolerance axis c) :=
  inferInstanceAs (Decidable (_ ∨ _))

theorem isBefore_iff : b.IsBefore tolerance axis c ↔ -tolerance ≤ c.start axis - b.stop axis := by
  unfold IsBefore
  constructor <;> intro h <;> linarith

theorem IsApart.symm (h : b.IsApart tolerance axis c) : c.IsApart tolerance axis b := Or.symm h

/-- A box in between is as long as the tolerance at least, so what is tolerated does not add up. -/
theorem IsBefore.trans (hbc : b.IsBefore tolerance axis c) (hc : tolerance ≤ c.extent axis)
    (hcd : c.IsBefore tolerance axis d) : b.IsBefore tolerance axis d := by
  unfold IsBefore at *
  rw [stop_eq axis c] at hcd
  linarith

theorem IsApart.isBefore (h : b.IsApart tolerance axis c) (hstart : b.start axis ≤ c.start axis)
    (hc : tolerance < c.extent axis) : b.IsBefore tolerance axis c := by
  rcases h with hbc | hcb
  · exact hbc
  · unfold IsBefore at hcb
    rw [stop_eq axis c] at hcb
    linarith

theorem pairwise_of_isChain : ∀ {boxes : List (Box Rat)},
    (∀ b ∈ boxes, tolerance ≤ b.extent axis) → boxes.IsChain (IsBefore tolerance axis) →
      boxes.Pairwise (IsBefore tolerance axis)
  | [], _, _ => .nil
  | [b], _, _ => pairwise_singleton _ b
  | b :: c :: boxes, hsize, h => by
    obtain ⟨hbc, htail⟩ := isChain_cons_cons.mp h
    rw [forall_mem_cons] at hsize
    have ih := pairwise_of_isChain hsize.2 htail
    have hc : tolerance ≤ c.extent axis := hsize.2 c mem_cons_self
    refine pairwise_cons.mpr ⟨?_, ih⟩
    rw [forall_mem_cons]
    exact ⟨hbc, fun d hd => hbc.trans hc (rel_of_pairwise_cons ih hd)⟩

end Box

namespace Detection

/-! ## Neighbours and pairs -/

section
variable {axis : Axis}

theorem start_le_of_precedes {b c : Box Rat} (h : precedes axis b c = true) :
    b.start axis ≤ c.start axis := by
  by_contra hlt
  have hgt : Scalar.totalCompare (b.start axis) (c.start axis) = .gt := by
    change (if b.start axis < c.start axis then Ordering.lt
      else if b.start axis = c.start axis then .eq else .gt) = .gt
    rw [if_neg (by linarith), if_neg (by linarith)]
  simp [precedes, hgt] at h

theorem pairwise_start_le_mergeSort (boxes : List (Box Rat)) :
    (boxes.mergeSort (precedes axis)).Pairwise fun b c => b.start axis ≤ c.start axis :=
  (pairwise_mergeSort (precedes_trans axis) (precedes_total axis) boxes).imp start_le_of_precedes

/-- **The gaps between neighbours tell of all pairs.** -/
theorem advances_sortAlong_iff {tolerance : Rat} {l : List (Placed Rat)}
    (hsize : ∀ b ∈ l.map (·.2), tolerance < b.extent axis) :
    advances tolerance axis (sortAlong axis l) = true ↔
      (l.map (·.2)).Pairwise (Box.IsApart tolerance axis) := by
  have hperm := mergeSort_perm (l.map (·.2)) (precedes axis)
  have hsize' : ∀ b ∈ (l.map (·.2)).mergeSort (precedes axis), tolerance < b.extent axis :=
    fun b hb => hsize b (hperm.mem_iff.mp hb)
  rw [advances_iff, map_sortAlong, ← hperm.pairwise_iff Box.IsApart.symm]
  constructor
  · intro hchain
    have hbefore : ((l.map (·.2)).mergeSort (precedes axis)).IsChain (Box.IsBefore tolerance axis) :=
      hchain.imp fun _ _ h => Box.isBefore_iff.mpr h
    exact (Box.pairwise_of_isChain (fun b hb => (hsize' b hb).le) hbefore).imp Or.inl
  · intro hapart
    -- of two boxes that lie apart, the one sorted first begins first, so it is the one over first
    have hpairs := (pairwise_start_le_mergeSort (l.map (·.2))).and hapart
    have hbefore : ((l.map (·.2)).mergeSort (precedes axis)).Pairwise
        (Box.IsBefore tolerance axis) :=
      hpairs.imp_of_mem fun _ hc h => h.2.isBefore h.1 (hsize' _ hc)
    exact hbefore.isChain.imp fun _ _ h => Box.isBefore_iff.mp h

end

def AreApart (t : Tolerances Rat) (axis : Axis) (boxes : List (Box Rat)) : Prop :=
  boxes.Pairwise (Box.IsApart t.gap axis)

instance (t : Tolerances Rat) (axis : Axis) (boxes : List (Box Rat)) :
    Decidable (AreApart t axis boxes) :=
  inferInstanceAs (Decidable (boxes.Pairwise _))

theorem areApart_of_length_lt (t : Tolerances Rat) (axis : Axis) :
    ∀ {boxes : List (Box Rat)}, boxes.length < 2 → AreApart t axis boxes
  | [], _ => .nil
  | [b], _ => pairwise_singleton _ b
  | _ :: _ :: _, h => by
    rw [length_cons, length_cons] at h
    omega

theorem areApart_perm {t : Tolerances Rat} {axis : Axis} {boxes boxes' : List (Box Rat)}
    (h : boxes ~ boxes') : AreApart t axis boxes ↔ AreApart t axis boxes' :=
  h.pairwise_iff Box.IsApart.symm

/-! ## Rows and columns -/

end Detection

namespace Flow

theorem exists_mainAxis : ∀ axis : Axis, ∃ f : Flow, f.mainAxis = some axis
  | .horizontal => ⟨.row, rfl⟩
  | .vertical => ⟨.column, rfl⟩

theorem isFlow_of_mainAxis {f : Flow} {axis : Axis} (h : f.mainAxis = some axis) :
    f.isFlow = true := by
  cases f with
  | free => cases h
  | row | column => rfl

theorem mainAxis_injective : Function.Injective mainAxis := by
  intro f g h
  cases f <;> cases g <;> first | rfl | cases h

end Flow

namespace Detection

theorem mainAxis_ofPlaced_iff {α : Type} [Scalar α] {t : Tolerances α} {l : List (Placed α)}
    {axis : Axis} : (ofPlaced t l).flow.mainAxis = some axis ↔
      2 ≤ l.length ∧ advances t.gap axis (sortAlong axis l) = true ∧
        advances t.gap axis.cross (sortAlong axis.cross l) = false := by
  constructor
  · intro h
    obtain ⟨axis', haxis', htwo, hmain, hcross, _⟩ :=
      ofPlaced_of_isFlow (Flow.isFlow_of_mainAxis h)
    cases h.symm.trans haxis'
    exact ⟨htwo, hmain, hcross⟩
  · rintro ⟨htwo, hmain, hcross⟩
    obtain ⟨flow, hflow⟩ := Flow.exists_mainAxis axis
    rw [ofPlaced_eq_along hflow htwo hmain hcross]
    exact hflow

section
variable {t : Tolerances Rat} {boxes : List (Box Rat)}
  (hsize : ∀ b ∈ boxes, ∀ axis, t.gap < b.extent axis)
include hsize

theorem mainAxis_ofBoxes_iff (axis : Axis) : (ofBoxes t boxes).flow.mainAxis = some axis ↔
    AreApart t axis boxes ∧ ¬AreApart t axis.cross boxes := by
  have hsize' : ∀ axis, ∀ b ∈ (place boxes).map (·.2), t.gap < b.extent axis := by
    rw [map_place]
    exact fun axis b hb => hsize b hb axis
  have hmain := advances_sortAlong_iff (hsize' axis)
  have hcross := advances_sortAlong_iff (hsize' axis.cross)
  have hlength : (place boxes).length = boxes.length := by
    rw [← length_map (f := (·.2)), map_place]
  rw [map_place] at hmain hcross
  rw [ofBoxes, mainAxis_ofPlaced_iff, hlength, hmain, ← Bool.not_eq_true, hcross]
  constructor
  · rintro ⟨_, hapart, htogether⟩
    exact ⟨hapart, htogether⟩
  · rintro ⟨hapart, htogether⟩
    refine ⟨?_, hapart, htogether⟩
    by_contra hlt
    exact htogether (areApart_of_length_lt t _ (by omega))

end

/-- **Boxes form a column if any two lie apart vertically and some two do not horizontally, a row
the other way round, and else neither,** in whatever order they come. -/
theorem ofBoxes_flow_iff (t : Tolerances Rat) (boxes : List (Box Rat))
    (hsize : ∀ b ∈ boxes, ∀ axis, t.gap < b.extent axis) :
    ((ofBoxes t boxes).flow = .column ↔
        AreApart t .vertical boxes ∧ ¬AreApart t .horizontal boxes) ∧
      ((ofBoxes t boxes).flow = .row ↔
        AreApart t .horizontal boxes ∧ ¬AreApart t .vertical boxes) ∧
      ((ofBoxes t boxes).flow = .free ↔
        (AreApart t .horizontal boxes ↔ AreApart t .vertical boxes)) ∧
      ∀ boxes', boxes' ~ boxes → (ofBoxes t boxes').flow = (ofBoxes t boxes).flow := by
  -- a flow is named by its main axis, so both are one lemma
  have hcolumn : (ofBoxes t boxes).flow = .column ↔
      AreApart t .vertical boxes ∧ ¬AreApart t .horizontal boxes := by
    rw [← Flow.mainAxis_injective.eq_iff]
    exact mainAxis_ofBoxes_iff hsize .vertical
  have hrow : (ofBoxes t boxes).flow = .row ↔
      AreApart t .horizontal boxes ∧ ¬AreApart t .vertical boxes := by
    rw [← Flow.mainAxis_injective.eq_iff]
    exact mainAxis_ofBoxes_iff hsize .horizontal
  have hfree : (ofBoxes t boxes).flow = .free ↔
      (ofBoxes t boxes).flow ≠ .column ∧ (ofBoxes t boxes).flow ≠ .row := by
    cases (ofBoxes t boxes).flow <;> simp
  refine ⟨hcolumn, hrow, ?_, fun boxes' hperm => Flow.mainAxis_injective ?_⟩
  · rw [hfree, ne_eq, ne_eq, hcolumn, hrow]
    tauto
  · have hsize' : ∀ b ∈ boxes', ∀ axis, t.gap < b.extent axis :=
      fun b hb => hsize b (hperm.mem_iff.mp hb)
    refine Option.ext fun axis => ?_
    rw [mainAxis_ofBoxes_iff hsize', mainAxis_ofBoxes_iff hsize, areApart_perm hperm,
      areApart_perm hperm]

def rungs : List (Box Rat) := [⟨5, 40, 50, 16⟩, ⟨0, 0, 50, 16⟩, ⟨10, 31 / 2, 50, 16⟩]

theorem rungs_flow : (∀ b ∈ rungs, ∀ axis, (default : Tolerances Rat).gap < b.extent axis) ∧
    (ofBoxes default rungs).flow = .column ∧
      ∀ boxes, boxes ~ rungs → (ofBoxes default boxes).flow = .column := by
  have hsize : ∀ b ∈ rungs, ∀ axis, (default : Tolerances Rat).gap < b.extent axis := by
    intro b hb axis
    revert b
    cases axis <;> decide +kernel
  obtain ⟨hcolumn, _, _, hperm⟩ := ofBoxes_flow_iff default rungs hsize
  have hflow : (ofBoxes default rungs).flow = .column :=
    hcolumn.mpr ⟨by decide +kernel, by decide +kernel⟩
  exact ⟨hsize, hflow, fun boxes h => (hperm boxes h).trans hflow⟩

end Detection

end Artboard
