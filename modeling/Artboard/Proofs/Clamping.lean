import Artboard.Number.Decimal

/-!
# Clamped numbers

Of two finite numbers one is at most the other, be they floats or rationals. So a finite number is
clamped into its bounds; what is no number at all stays what it is.
-/

namespace Artboard

/-! ## Finite numbers in order -/

class FiniteOrder (α : Type) [Scalar α] : Prop where
  isFinite_zero : Scalar.isFinite (0 : α) = true
  isFinite_one : Scalar.isFinite (1 : α) = true
  zero_le_one : (0 : α) ≤ 1
  le_refl {a : α} (ha : Scalar.isFinite a = true) : a ≤ a
  le_of_not_lt {a b : α} (ha : Scalar.isFinite a = true) (hb : Scalar.isFinite b = true)
    (h : ¬a < b) : b ≤ a

instance : FiniteOrder Rat where
  isFinite_zero := rfl
  isFinite_one := rfl
  zero_le_one := by decide
  le_refl {a} _ := Rat.le_refl
  le_of_not_lt _ _ h := Rat.not_lt.1 h

namespace FloatOrder

open Float.Model

theorem swap_magnitudes (e k : Int) (m n : Nat) :
    ((compare e k).then (compare m n)).swap = (compare k e).then (compare n m) := by
  rw [Ordering.swap_then, ← Std.OrientedOrd.eq_swap, ← Std.OrientedOrd.eq_swap]

/-- Two finite numbers are compared, and the other way round with the opposite result. -/
theorem exists_compare {u v : UnpackedFloat} (hu : u.isFinite = true) (hv : v.isFinite = true) :
    ∃ o, u.compare v = some o ∧ v.compare u = some o.swap := by
  cases u with
  | infinity _ | notANumber => cases hu
  | zero s =>
    cases v with
    | infinity _ | notANumber => cases hv
    | zero _ => exact ⟨.eq, rfl, rfl⟩
    | finite t _ _ _ => cases t <;> exact ⟨_, rfl, rfl⟩
  | finite s m e _ =>
    cases v with
    | infinity _ | notANumber => cases hv
    | zero _ => cases s <;> exact ⟨_, rfl, rfl⟩
    | finite t n k _ =>
      have hswap := swap_magnitudes e k m n
      cases s with
      | positive =>
        cases t with
        | positive => exact ⟨_, rfl, congrArg some hswap.symm⟩
        | negative => exact ⟨_, rfl, rfl⟩
      | negative =>
        cases t with
        | positive => exact ⟨_, rfl, rfl⟩
        | negative => exact ⟨_, rfl, congrArg (fun o : Ordering => some o.swap) hswap.symm⟩

end FloatOrder

open FloatOrder in
instance : FiniteOrder Float where
  isFinite_zero := rfl
  isFinite_one := rfl
  zero_le_one := by decide
  le_refl {a} ha := by
    obtain ⟨o, ho, hswap⟩ := exists_compare ha ha
    have hsame : o = o.swap := Option.some.inj (ho.symm.trans hswap)
    change decide (a.toModel.unpack.le a.toModel.unpack = true) = true
    rw [Float.Model.UnpackedFloat.le, ho]
    cases o with
    | eq => rfl
    | lt | gt => cases hsame
  le_of_not_lt {a b} ha hb h := by
    obtain ⟨o, ho, hswap⟩ := exists_compare ha hb
    change ¬decide (a.toModel.unpack.lt b.toModel.unpack = true) = true at h
    change decide (b.toModel.unpack.le a.toModel.unpack = true) = true
    rw [Float.Model.UnpackedFloat.lt, ho] at h
    rw [Float.Model.UnpackedFloat.le, hswap]
    cases o with
    | lt => exact absurd rfl h
    | eq | gt => rfl

/-! ## Clamping -/

section
variable {α : Type} [Scalar α] [FiniteOrder α]

open FiniteOrder

theorem Scalar.clamp_mem {a : α} (ha : Scalar.isFinite a = true) :
    0 ≤ Scalar.clamp 0 1 a ∧ Scalar.clamp 0 1 a ≤ 1 := by
  unfold Scalar.clamp
  by_cases hlow : a < 0
  · rw [if_pos hlow]
    exact ⟨le_refl isFinite_zero, zero_le_one⟩
  · rw [if_neg hlow]
    by_cases hhigh : 1 < a
    · rw [if_pos hhigh]
      exact ⟨zero_le_one, le_refl isFinite_one⟩
    · rw [if_neg hhigh]
      exact ⟨le_of_not_lt ha isFinite_zero hlow, le_of_not_lt isFinite_one ha hhigh⟩

end

end Artboard
