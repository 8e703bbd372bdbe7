import Artboard.Geometry.Compass
import Artboard.Proofs.Turning

/-!
# Snapping to the compass

An angle is given by any of the numbers that lie full turns apart. With exact numbers the arc
between two angles is the least difference of numbers that give them, so an angle is snapped to the
compass point next to it, at most half a sector away, whichever number it is given by.
-/

open List

namespace Artboard

/-! ## Remainders -/

namespace Scalar

variable {b : Rat} (hb : 0 < b) (x : Rat)
include hb

theorem remainder_eq : remainder x b =
    b * (((x / b).num.tmod (x / b).den : Int) / ((x / b).den : Rat)) := by
  have hden : ((x / b).den : Rat) ≠ 0 := by exact_mod_cast (x / b).den_ne_zero
  have hparts : ((x / b).den : Rat) * ((x / b).num.tdiv (x / b).den : Int) +
      ((x / b).num.tmod (x / b).den : Int) = (x / b).num := by
    exact_mod_cast Int.mul_tdiv_add_tmod (x / b).num (x / b).den
  have hquotient : x = b * ((x / b).num / ((x / b).den : Rat)) := by
    rw [Rat.num_div_den, mul_div_cancel₀ x hb.ne']
  have hleft : remainder x b = x - b * ((x / b).num.tdiv (x / b).den : Int) := rfl
  rw [hleft]
  nth_rewrite 1 [hquotient]
  rw [← hparts, add_div, mul_div_cancel_left₀ _ hden, mul_add, add_sub_cancel_left]

theorem neg_lt_remainder_and_lt : -b < remainder x b ∧ remainder x b < b := by
  have hden : 0 < ((x / b).den : Int) := by exact_mod_cast (x / b).den_pos
  have hden' : (0 : Rat) < (x / b).den := by exact_mod_cast (x / b).den_pos
  have hlow := Int.lt_tmod_of_pos (x / b).num hden
  have hhigh := Int.tmod_lt_of_pos (x / b).num hden
  have hlow' : -(1 : Rat) < ((x / b).num.tmod (x / b).den : Int) / ((x / b).den : Rat) := by
    rw [lt_div_iff₀ hden', neg_one_mul]
    exact_mod_cast hlow
  have hhigh' : ((x / b).num.tmod (x / b).den : Int) / ((x / b).den : Rat) < 1 := by
    rw [div_lt_one hden']
    exact_mod_cast hhigh
  rw [remainder_eq hb]
  constructor <;> nlinarith

theorem wrap_spec : 0 ≤ wrap x b ∧ wrap x b < b ∧ ∃ q : Int, x = wrap x b + q * b := by
  obtain ⟨hlow, hhigh⟩ := neg_lt_remainder_and_lt hb x
  have hmagnitude : magnitude b = b := if_neg (not_lt_of_gt hb)
  have hturns : x = remainder x b + ((x / b).num.tdiv (x / b).den : Int) * b := by
    change x = x - b * ((x / b).num.tdiv (x / b).den : Int) + _
    ring
  unfold wrap
  by_cases hneg : remainder x b < 0
  · rw [if_pos hneg, hmagnitude]
    refine ⟨by linarith, by linarith, (x / b).num.tdiv (x / b).den - 1, ?_⟩
    push_cast
    linarith
  · rw [if_neg hneg]
    exact ⟨not_lt.mp hneg, hhigh, _, hturns⟩

end Scalar

/-! ## Arcs -/

namespace Compass

/-- The least difference of numbers that give two angles. -/
structure IsArc (a b d : Rat) : Prop where
  attained : ∃ k : Int, d = |a - b + k * 360|
  least : ∀ k : Int, d ≤ |a - b + k * 360|

theorem IsArc.unique {a b d d' : Rat} (h : IsArc a b d) (h' : IsArc a b d') : d = d' := by
  obtain ⟨k, hk⟩ := h.attained
  obtain ⟨k', hk'⟩ := h'.attained
  exact le_antisymm (hk' ▸ h.least k') (hk ▸ h'.least k)

theorem IsArc.add_turns {a b d : Rat} (h : IsArc a b d) (n : Int) : IsArc (a + n * 360) b d := by
  have hturns : ∀ k : Int, a + n * 360 - b + k * 360 = a - b + ((n + k : Int) : Rat) * 360 := by
    intro k
    push_cast
    ring
  constructor
  · obtain ⟨k, hk⟩ := h.attained
    refine ⟨k - n, ?_⟩
    rw [hturns, add_sub_cancel, hk]
  · intro k
    rw [hturns]
    exact h.least _

theorem isArc_arc (a b : Rat) : IsArc a b (arc a b) := by
  obtain ⟨hnonneg, hlt, q, hq⟩ := Scalar.wrap_spec (b := 360) (by norm_num) (a - b)
  have harc : arc a b = min (Scalar.wrap (a - b) 360) (360 - Scalar.wrap (a - b) 360) :=
    Scalar.least_eq_min _ _
  rw [harc]
  generalize Scalar.wrap (a - b) 360 = r at *
  constructor
  · rcases min_choice r (360 - r) with hmin | hmin
    · refine ⟨-q, ?_⟩
      rw [hmin, hq, Int.cast_neg, neg_mul, add_neg_cancel_right, abs_of_nonneg hnonneg]
    · refine ⟨-q - 1, ?_⟩
      have hback : a - b + ((-q - 1 : Int) : Rat) * 360 = -(360 - r) := by
        rw [hq]
        push_cast
        ring
      rw [hmin, hback, abs_neg, abs_of_nonneg (by linarith)]
  · intro k
    have hturns : a - b + k * 360 = r + ((q + k : Int) : Rat) * 360 := by
      rw [hq]
      push_cast
      ring
    rw [hturns]
    -- a number no turn or more behind `r` is at least `r`; one that is behind is off by `360 - r`
    rcases le_or_gt 0 (q + k) with hahead | hbehind
    · have hge : (0 : Rat) ≤ ((q + k : Int) : Rat) := by exact_mod_cast hahead
      refine (min_le_left _ _).trans (le_trans ?_ (le_abs_self _))
      linarith
    · have hle : ((q + k : Int) : Rat) ≤ -1 := by exact_mod_cast Int.le_sub_one_of_lt hbehind
      refine (min_le_right _ _).trans (le_trans ?_ (neg_le_abs _))
      linarith

theorem arc_le (a b : Rat) (k : Int) : arc a b ≤ |a - b + k * 360| := (isArc_arc a b).least k

theorem arc_add_turns (a b : Rat) (k : Int) : arc (a + k * 360) b = arc a b :=
  (isArc_arc _ _).unique ((isArc_arc a b).add_turns k)

/-! ## The scan -/

theorem exists_eq_append_closest (a : Rat) : ∀ (best : Compass) (l : List Compass),
    ∃ front back, best :: l = front ++ closest a best l :: back ∧
      (∀ c ∈ front, arc a (closest a best l).angle < arc a c.angle) ∧
        ∀ c ∈ back, arc a (closest a best l).angle ≤ arc a c.angle
  | best, [] => ⟨[], [], rfl, nofun, nofun⟩
  | best, c :: l => by
    -- the best so far gives way only to a direction that is strictly nearer
    by_cases hc : arc a c.angle < arc a best.angle
    · obtain ⟨front, back, heq, hfront, hback⟩ := exists_eq_append_closest a c l
      rw [closest, if_pos hc]
      generalize closest a c l = r at *
      refine ⟨best :: front, back, by rw [heq, cons_append], ?_, hback⟩
      rw [forall_mem_cons]
      refine ⟨?_, hfront⟩
      cases front with
      | nil => rwa [← (cons.inj heq).1]
      | cons d front => exact (hfront c ((cons.inj heq).1 ▸ mem_cons_self)).trans hc
    · obtain ⟨front, back, heq, hfront, hback⟩ := exists_eq_append_closest a best l
      rw [closest, if_neg hc]
      generalize closest a best l = r at *
      cases front with
      | nil =>
        obtain ⟨rfl, rfl⟩ := cons.inj heq
        refine ⟨[], c :: l, rfl, nofun, ?_⟩
        rw [forall_mem_cons]
        exact ⟨not_lt.mp hc, hback⟩
      | cons d front =>
        obtain ⟨rfl, rfl⟩ := cons.inj heq
        rw [forall_mem_cons] at hfront
        refine ⟨best :: c :: front, back, rfl, ?_, hback⟩
        rw [forall_mem_cons, forall_mem_cons]
        exact ⟨hfront.1, hfront.1.trans_le (not_lt.mp hc), hfront.2⟩

theorem nodup_all : all.Nodup := by decide

theorem mem_all (c : Compass) : c ∈ all := by cases c <;> decide

/-- No compass point is nearer, and none that comes earlier is as near. -/
structure IsNearest (a : Rat) (c : Compass) : Prop where
  least : ∀ d : Compass, arc a c.angle ≤ arc a d.angle
  first : ∀ d : Compass, arc a d.angle = arc a c.angle → all.idxOf c ≤ all.idxOf d

theorem ofAngle_eq (a : Rat) : ofAngle a = closest a .leftToRight all.tail := by
  have hfinite : Scalar.isFinite a = true := rfl
  rw [ofAngle, if_pos hfinite, all, closest, if_neg (lt_irrefl _), tail_cons]

theorem isNearest_ofAngle (a : Rat) : IsNearest a (ofAngle a) := by
  obtain ⟨front, back, heq, hfront, hback⟩ :=
    exists_eq_append_closest a .leftToRight all.tail
  rw [← ofAngle_eq] at heq hfront hback
  have hall : all = front ++ ofAngle a :: back := heq
  have hnodup := nodup_all
  rw [hall] at hnodup
  constructor
  · intro d
    have hd := mem_all d
    rw [hall, mem_append, mem_cons] at hd
    rcases hd with hd | rfl | hd
    · exact (hfront d hd).le
    · exact le_rfl
    · exact hback d hd
  · intro d hd
    have hnot : d ∉ front := fun hmem => (hfront d hmem).ne' hd
    have hself : ofAngle a ∉ front := fun hmem => lt_irrefl _ (hfront _ hmem)
    rw [hall, idxOf_append_of_notMem hself, idxOf_append_of_notMem hnot, idxOf_cons_self]
    omega

/-! ## Sectors -/

theorem exists_angle_eq (n : Int) :
    ∃ (c : Compass) (k : Int), (c.angle : Rat) = 45 * n + k * 360 := by
  have hn : (45 : Rat) * n = 360 * (n / 8 : Int) + 45 * (n % 8 : Int) := by
    have hsplit : (n : Rat) = 8 * (n / 8 : Int) + (n % 8 : Int) := by
      exact_mod_cast (Int.mul_ediv_add_emod n 8).symm
    linarith
  have hlow := Int.emod_nonneg n (b := 8) (by decide)
  have hhigh := Int.emod_lt_of_pos n (b := 8) (by decide)
  -- only the sector modulo eight matters
  rw [hn]
  generalize n / 8 = q
  generalize n % 8 = r at *
  suffices h : ∃ (c : Compass) (k : Int), (c.angle : Rat) = 45 * (r : Rat) + k * 360 by
    obtain ⟨c, k, hc⟩ := h
    refine ⟨c, k - q, ?_⟩
    push_cast
    linarith
  interval_cases r
  · exact ⟨.leftToRight, 0, by norm_num [angle]⟩
  · exact ⟨.topLeftToBottomRight, 0, by norm_num [angle]⟩
  · exact ⟨.topToBottom, 0, by norm_num [angle]⟩
  · exact ⟨.topRightToBottomLeft, 0, by norm_num [angle]⟩
  · exact ⟨.rightToLeft, 0, by norm_num [angle]⟩
  · exact ⟨.bottomRightToTopLeft, -1, by norm_num [angle]⟩
  · exact ⟨.bottomToTop, -1, by norm_num [angle]⟩
  · exact ⟨.bottomLeftToTopRight, -1, by norm_num [angle]⟩

theorem arc_ofAngle_le (a : Rat) : arc a (ofAngle a).angle ≤ 45 / 2 := by
  obtain ⟨c, k, hc⟩ := exists_angle_eq (round (a / 45))
  have hround := abs_sub_round (a / 45)
  have hdiff : a - (c.angle : Rat) + k * 360 = 45 * (a / 45 - round (a / 45)) := by
    rw [hc]
    ring
  calc arc a (ofAngle a).angle ≤ arc a c.angle := (isNearest_ofAngle a).least c
    _ ≤ |a - c.angle + k * 360| := arc_le a c.angle k
    _ = 45 * |a / 45 - round (a / 45)| := by rw [hdiff, abs_mul, abs_of_pos (by norm_num)]
    _ ≤ 45 / 2 := by linarith

theorem closest_congr {a a' : Rat} (h : ∀ b, arc a b = arc a' b) : ∀ (best : Compass)
    (l : List Compass), closest a best l = closest a' best l
  | _, [] => rfl
  | best, c :: l => by rw [closest, closest, h, h, closest_congr h]

/-- **An angle is snapped to the compass point next to it,** the first of two that are as near, and
by the same point however many full turns are added. -/
theorem ofAngle_isNearest (a : Rat) :
    IsNearest a (ofAngle a) ∧ arc a (ofAngle a).angle ≤ 45 / 2 ∧
      (∀ k : Int, ofAngle (a + k * 360) = ofAngle a) ∧ ∀ b, IsArc a b (arc a b) := by
  refine ⟨isNearest_ofAngle a, arc_ofAngle_le a, fun k => ?_, isArc_arc a⟩
  rw [ofAngle_eq, ofAngle_eq]
  exact closest_congr (fun b => arc_add_turns a b k) _ _

example : ofAngle (-225 / 2 : Rat) = .bottomRightToTopLeft := by cbv

end Compass

end Artboard
