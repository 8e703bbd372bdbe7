import Artboard.Number.Decimal
import Artboard.Proofs.InferredOrder
import Mathlib.Data.List.Chain

/-!
# Sorting boxes again

Boxes that tie along one axis tie along the other, so sorting along one after sorting along the other
gives what it gives at once. Boxes that were found to form a row or a column therefore form the same
one, with the same gaps, when they are looked at again in the order they were found to have.
-/

open List Std

namespace Artboard

/-! ## Sorting twice -/

section
variable {β : Type} {le le' : β → β → Bool}

def ties (le : β → β → Bool) (x y : β) : Bool := le x y && le y x

theorem filter_ties_mergeSort (trans : ∀ a b c, le a b → le b c → le a c)
    (total : ∀ a b, le a b || le b a) (x : β) (l : List β) :
    (l.mergeSort le).filter (ties le x) = l.filter (ties le x) := by
  have hties : (l.filter (ties le x)).Pairwise fun a b => le a b := by
    refine pairwise_of_forall_mem_list fun a ha b hb => ?_
    have hax := (mem_filter.mp ha).2
    have hxb := (mem_filter.mp hb).2
    simp only [ties, Bool.and_eq_true] at hax hxb
    exact trans a x b hax.2 hxb.1
  have hsub : l.filter (ties le x) <+ l.mergeSort le :=
    sublist_mergeSort trans total hties filter_sublist
  have hsub' := hsub.filter (ties le x)
  simp only [filter_filter, Bool.and_self] at hsub'
  have hlength := ((mergeSort_perm l le).filter (ties le x)).length_eq
  exact (hsub'.eq_of_length hlength.symm).symm

theorem eq_of_filter_ties (refl : ∀ a, le a a = true) : ∀ {l l' : List β},
    (l.Pairwise fun a b => le a b) → (l'.Pairwise fun a b => le a b) →
      (∀ x, l.filter (ties le x) = l'.filter (ties le x)) → l = l'
  | [], [], _, _, _ => rfl
  | [], b :: l', _, _, h => by
    have hb := h b
    simp [ties, refl b] at hb
  | a :: l, [], _, _, h => by
    have ha := h a
    simp [ties, refl a] at ha
  | a :: l, b :: l', hl, hl', h => by
    have hself : ∀ x, ties le x x = true := fun x => by simp [ties, refl x]
    have ha : a ∈ (b :: l').filter (ties le a) := by
      rw [← h a]
      simp [hself a]
    have hb : b ∈ (a :: l).filter (ties le b) := by
      rw [h b]
      simp [hself b]
    have hba : le b a = true := by
      rcases mem_cons.mp (mem_filter.mp ha).1 with rfl | hmem
      · exact refl a
      · exact rel_of_pairwise_cons hl' hmem
    have hab : le a b = true := by
      rcases mem_cons.mp (mem_filter.mp hb).1 with rfl | hmem
      · exact refl b
      · exact rel_of_pairwise_cons hl hmem
    -- both heads tie with the first, so they are the first of the same part of both lists
    have hhead := h a
    have htie : ties le a b = true := by simp [ties, hab, hba]
    rw [filter_cons_of_pos (hself a), filter_cons_of_pos htie, cons.injEq] at hhead
    obtain ⟨rfl, _⟩ := hhead
    have htail : ∀ x, l.filter (ties le x) = l'.filter (ties le x) := by
      intro x
      have hx := h x
      by_cases hxa : ties le x a = true
      · rw [filter_cons_of_pos hxa, filter_cons_of_pos hxa] at hx
        exact (cons.inj hx).2
      · rwa [filter_cons_of_neg hxa, filter_cons_of_neg hxa] at hx
    rw [eq_of_filter_ties refl hl.of_cons hl'.of_cons htail]

theorem mergeSort_mergeSort (trans : ∀ a b c, le a b → le b c → le a c)
    (total : ∀ a b, le a b || le b a) (trans' : ∀ a b c, le' a b → le' b c → le' a c)
    (total' : ∀ a b, le' a b || le' b a) (hties : ∀ x y, ties le x y = ties le' x y) (l : List β) :
    (l.mergeSort le').mergeSort le = l.mergeSort le := by
  have refl : ∀ a, le a a = true := fun a => by simpa using total a a
  refine eq_of_filter_ties refl (pairwise_mergeSort trans total _)
    (pairwise_mergeSort trans total _) fun x => ?_
  have hsame : ties le x = ties le' x := funext (hties x)
  rw [filter_ties_mergeSort trans total, filter_ties_mergeSort trans total, hsame,
    filter_ties_mergeSort trans' total']

end

/-! ## Numbers in order -/

instance : TransCmp (@Scalar.totalCompare Float _) :=
  inferInstanceAs (TransCmp (compareOn totalRank))

instance : TransCmp (@Scalar.totalCompare Rat _) where
  eq_swap := by
    intro a b
    change (if a < b then Ordering.lt else if a = b then .eq else .gt) =
      (if b < a then Ordering.lt else if b = a then .eq else .gt).swap
    by_cases h : a < b
    · have hba : ¬b < a := by grind
      have hne : b ≠ a := by grind
      simp [h, hba, hne]
    · by_cases heq : a = b
      · simp [heq]
      · have hba : b < a := by grind
        simp [h, heq, hba]
  isLE_trans := by
    intro a b c
    have hle : ∀ x y : Rat, (Scalar.totalCompare x y).isLE = true ↔ x ≤ y := by
      intro x y
      change (if x < y then Ordering.lt else if x = y then .eq else .gt).isLE = true ↔ x ≤ y
      split
      · simp; grind
      · split <;> simp <;> grind
    rw [hle, hle, hle]
    exact Rat.le_trans

namespace Detection

variable {α : Type} [Scalar α]

/-! ## Boxes in order -/

def compareStarts (axis : Axis) (b c : Box α) : Ordering :=
  Scalar.totalCompare (b.start axis) (c.start axis)

theorem precedes_eq (axis : Axis) (b c : Box α) :
    precedes axis b c = (compareLex (compareStarts axis) (compareStarts axis.cross) b c).isLE := by
  unfold precedes compareLex compareStarts
  cases (Scalar.totalCompare (b.start axis) (c.start axis)).then
    (Scalar.totalCompare (b.start axis.cross) (c.start axis.cross)) <;> rfl

section
variable [TransCmp (@Scalar.totalCompare α _)]

instance (axis : Axis) : TransCmp (@compareStarts α _ axis) where
  eq_swap := fun {_ _} => @OrientedCmp.eq_swap α Scalar.totalCompare _ _ _
  isLE_trans := fun {_ _ _} => @TransCmp.isLE_trans α Scalar.totalCompare _ _ _ _

theorem precedes_trans (axis : Axis) (a b c : Box α) (hab : precedes axis a b)
    (hbc : precedes axis b c) : precedes axis a c := by
  rw [precedes_eq] at hab hbc ⊢
  exact TransCmp.isLE_trans hab hbc

theorem precedes_total (axis : Axis) (a b : Box α) :
    precedes axis a b || precedes axis b a := by
  have hswap : compareLex (compareStarts axis) (compareStarts axis.cross) b a =
      (compareLex (compareStarts axis) (compareStarts axis.cross) a b).swap := OrientedCmp.eq_swap
  rw [precedes_eq, precedes_eq, hswap]
  cases compareLex (compareStarts axis) (compareStarts axis.cross) a b <;> rfl

theorem ties_precedes_iff (axis : Axis) (a b : Box α) : ties (precedes axis) a b = true ↔
    compareStarts axis a b = .eq ∧ compareStarts axis.cross a b = .eq := by
  have hlex : compareLex (compareStarts axis) (compareStarts axis.cross) a b = .eq ↔
      compareStarts axis a b = .eq ∧ compareStarts axis.cross a b = .eq := Ordering.then_eq_eq
  rw [← hlex, ties, Bool.and_eq_true, precedes_eq, precedes_eq]
  constructor
  · intro h
    exact OrientedCmp.isLE_antisymm h.1 h.2
  · intro h
    exact ⟨Ordering.isLE_of_eq_eq h, Ordering.isLE_of_eq_eq (OrientedCmp.eq_symm h)⟩

theorem ties_precedes_cross (axis : Axis) (a b : Box α) :
    ties (precedes axis.cross) a b = ties (precedes axis) a b := by
  have hcross : axis.cross.cross = axis := by cases axis <;> rfl
  rw [Bool.eq_iff_iff, ties_precedes_iff, ties_precedes_iff, hcross]
  exact And.comm

theorem mergeSort_cross (axis : Axis) (boxes : List (Box α)) :
    (boxes.mergeSort (precedes axis)).mergeSort (precedes axis.cross) =
      boxes.mergeSort (precedes axis.cross) :=
  mergeSort_mergeSort (precedes_trans _) (precedes_total _) (precedes_trans _) (precedes_total _)
    (ties_precedes_cross axis) boxes

end

/-! ## Boxes and their gaps -/

theorem map_sortAlong (axis : Axis) (l : List (Placed α)) :
    (sortAlong axis l).map (·.2) = (l.map (·.2)).mergeSort (precedes axis) :=
  map_mergeSort fun _ _ _ _ => rfl

theorem length_sortAlong (axis : Axis) (l : List (Placed α)) :
    (sortAlong axis l).length = l.length := length_mergeSort l

theorem gaps_congr (axis : Axis) : ∀ {l l' : List (Placed α)}, l.map (·.2) = l'.map (·.2) →
    gaps axis l = gaps axis l'
  | [], [], _ => rfl
  | [_], [_], _ => rfl
  | p :: q :: l, p' :: q' :: l', h => by
    simp only [map_cons, cons.injEq] at h
    obtain ⟨hp, hq, hl⟩ := h
    have ih : gaps axis (q :: l) = gaps axis (q' :: l') :=
      gaps_congr axis (by simp only [map_cons, hq, hl])
    rw [gaps, gaps, hp, hq, ih]
  | [], _ :: _, h => by simp at h
  | _ :: _, [], h => by simp at h
  | [_], _ :: _ :: _, h => by simp at h
  | _ :: _ :: _, [_], h => by simp at h

theorem advances_congr (tolerance : α) (axis : Axis) {l l' : List (Placed α)}
    (h : l.map (·.2) = l'.map (·.2)) : advances tolerance axis l = advances tolerance axis l' := by
  unfold advances
  rw [gaps_congr axis h]

theorem advances_iff {tolerance : α} {axis : Axis} : ∀ {l : List (Placed α)},
    advances tolerance axis l = true ↔
      (l.map (·.2)).IsChain fun b c => -tolerance ≤ c.start axis - b.stop axis
  | [] => by simp [advances, gaps]
  | [p] => by simp [advances, gaps]
  | p :: q :: l => by
    have ih : advances tolerance axis (q :: l) = true ↔
        ((q :: l).map (·.2)).IsChain fun b c => -tolerance ≤ c.start axis - b.stop axis :=
      advances_iff
    rw [map_cons, map_cons, isChain_cons_cons, ← map_cons, ← ih]
    simp only [advances, gaps, all_cons, Bool.and_eq_true, decide_eq_true_eq]

/-! ## Boxes mapped -/

section
variable {axis axis' : Axis} {f : Box α → Box α}
  (horder : ∀ b c, precedes axis (f b) (f c) = precedes axis' b c)
  (hgap : ∀ b c, (f c).start axis - (f b).stop axis = c.start axis' - b.stop axis')

include horder in
theorem sortAlong_map (l : List (Placed α)) :
    sortAlong axis (l.map (Prod.map id f)) = (sortAlong axis' l).map (Prod.map id f) :=
  (map_mergeSort fun p _ q _ => (horder p.2 q.2).symm).symm

include hgap in
theorem gaps_map : ∀ l : List (Placed α), gaps axis (l.map (Prod.map id f)) = gaps axis' l
  | [] => rfl
  | [_] => rfl
  | p :: q :: l => by
    have ih := gaps_map (q :: l)
    rw [map_cons] at ih
    rw [map_cons, map_cons, gaps, gaps, Prod.map_snd, Prod.map_snd, hgap p.2 q.2, ih]

include horder hgap

theorem gaps_sortAlong_map (l : List (Placed α)) :
    gaps axis (sortAlong axis (l.map (Prod.map id f))) = gaps axis' (sortAlong axis' l) := by
  rw [sortAlong_map horder, gaps_map hgap]

theorem advances_map (tolerance : α) (l : List (Placed α)) :
    advances tolerance axis (sortAlong axis (l.map (Prod.map id f))) =
      advances tolerance axis' (sortAlong axis' l) := by
  rw [advances, advances, gaps_sortAlong_map horder hgap]

theorem along_map (flow : Flow) (l : List (Placed α)) :
    along flow axis (sortAlong axis (l.map (Prod.map id f))) =
      along flow axis' (sortAlong axis' l) := by
  rw [along, along, gaps_sortAlong_map horder hgap, sortAlong_map horder, map_fst_map]

end

/-! ## Detecting twice -/

theorem ofPlaced_of_isFlow {t : Tolerances α} {l : List (Placed α)}
    (h : (ofPlaced t l).flow.isFlow = true) :
    ∃ axis, (ofPlaced t l).flow.mainAxis = some axis ∧ 2 ≤ l.length ∧
      advances t.gap axis (sortAlong axis l) = true ∧
      advances t.gap axis.cross (sortAlong axis.cross l) = false ∧
      ofPlaced t l = along (ofPlaced t l).flow axis (sortAlong axis l) := by
  unfold ofPlaced at h ⊢
  by_cases hlength : l.length < 2
  · rw [if_pos hlength] at h
    cases h
  · rw [if_neg hlength] at h
    simp only [if_neg hlength]
    have htwo : 2 ≤ l.length := by omega
    cases hx : advances t.gap .horizontal (sortAlong .horizontal l) <;>
      cases hy : advances t.gap .vertical (sortAlong .vertical l) <;> simp only [hx, hy] at h ⊢
    · cases h
    · exact ⟨.vertical, rfl, htwo, hy, hx, rfl⟩
    · exact ⟨.horizontal, rfl, htwo, hx, hy, rfl⟩
    · cases h

theorem ofPlaced_eq_along {t : Tolerances α} {l : List (Placed α)} {flow : Flow} {axis : Axis}
    (haxis : flow.mainAxis = some axis) (htwo : 2 ≤ l.length)
    (hmain : advances t.gap axis (sortAlong axis l) = true)
    (hcross : advances t.gap axis.cross (sortAlong axis.cross l) = false) :
    ofPlaced t l = along flow axis (sortAlong axis l) := by
  have hlength : ¬l.length < 2 := by omega
  unfold ofPlaced
  rw [if_neg hlength]
  cases flow with
  | free => cases haxis
  | row =>
    cases haxis
    simp only [Axis.cross] at hcross
    simp only [hmain, hcross]
  | column =>
    cases haxis
    simp only [Axis.cross] at hcross
    simp only [hmain, hcross]

/-- Looked at again, the boxes are found to have the flow and the spacing, in the order they are in;
on its axis they are sorted, and overlap by no more than is tolerated. -/
structure Confirms (t : Tolerances α) (flow : Flow) (spacing : α) (boxes : List (Box α)) : Prop where
  ofBoxes_eq : ofBoxes t boxes = ⟨flow, List.range boxes.length, spacing⟩
  sorted : ∀ axis, flow.mainAxis = some axis → boxes.Pairwise fun b c => precedes axis b c = true
  chained : ∀ axis, flow.mainAxis = some axis →
    boxes.IsChain fun b c => -t.gap ≤ c.start axis - b.stop axis

variable [TransCmp (@Scalar.totalCompare α _)]

/-- **What forms a row or a column forms the same one when it is in its order.** -/
theorem confirms_ofPlaced {t : Tolerances α} {l : List (Placed α)} {axis : Axis}
    (h : (ofPlaced t l).flow.isFlow = true) (haxis : (ofPlaced t l).flow.mainAxis = some axis) :
    Confirms t (ofPlaced t l).flow (ofPlaced t l).spacing ((sortAlong axis l).map (·.2)) := by
  obtain ⟨axis', haxis', htwo, hmain, hcross, heq⟩ := ofPlaced_of_isFlow h
  cases haxis.symm.trans haxis'
  have hsorted : ((sortAlong axis l).map (·.2)).Pairwise fun b c => precedes axis b c = true := by
    rw [map_sortAlong]
    exact pairwise_mergeSort (precedes_trans axis) (precedes_total axis) _
  have hmap := map_place ((sortAlong axis l).map (·.2))
  have hplace : (place ((sortAlong axis l).map (·.2))).length = l.length := by
    rw [place, length_map, length_zipIdx, length_map, length_sortAlong]
  -- along the axis nothing moves any more, and along the other the boxes are sorted as before
  have hagain : sortAlong axis (place ((sortAlong axis l).map (·.2))) =
      place ((sortAlong axis l).map (·.2)) := by
    refine mergeSort_of_pairwise ?_
    rw [← hmap] at hsorted
    exact pairwise_map.mp hsorted
  have hacross : (sortAlong axis.cross (place ((sortAlong axis l).map (·.2)))).map (·.2) =
      (sortAlong axis.cross l).map (·.2) := by
    rw [map_sortAlong, hmap, map_sortAlong, map_sortAlong, mergeSort_cross]
  have hmain' : advances t.gap axis (place ((sortAlong axis l).map (·.2))) = true := by
    rw [advances_congr t.gap axis hmap, hmain]
  have hcross' : advances t.gap axis.cross
      (sortAlong axis.cross (place ((sortAlong axis l).map (·.2)))) = false := by
    rw [advances_congr t.gap axis.cross hacross, hcross]
  refine ⟨?_, fun axis' h' => ?_, fun axis' h' => ?_⟩
  · have hfound := ofPlaced_eq_along haxis (hplace ▸ htwo) (hagain.symm ▸ hmain') hcross'
    have hspacing : (ofPlaced t l).spacing = meanGap (gaps axis (sortAlong axis l)) := by
      rw [heq]
      rfl
    rw [ofBoxes, hfound, hagain, along, place_indices, gaps_congr axis hmap, hspacing]
  · cases haxis.symm.trans h'
    exact hsorted
  · cases haxis.symm.trans h'
    exact advances_iff.mp hmain

end Detection

end Artboard
