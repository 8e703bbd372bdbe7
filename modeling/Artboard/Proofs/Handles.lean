import Artboard.Geometry.Compass
import Mathlib.Analysis.SpecialFunctions.Complex.Arg

/-!
# Gradient handles

A gradient transform that is built for a direction gives this direction back, without rounding: its
handles are apart by the very cosine and sine it was built from. Real numbers have a cosine and a
sine for every angle, so with them the angle comes back as well.
-/

namespace Artboard

/-! ## Exact numbers -/

/-- A scalar of real numbers that are never rounded. -/
class ExactScalar (α : Type) [Scalar α] where
  toReal : α → ℝ
  toReal_injective : Function.Injective toReal
  toReal_add : ∀ a b : α, toReal (a + b) = toReal a + toReal b
  toReal_sub : ∀ a b : α, toReal (a - b) = toReal a - toReal b
  toReal_mul : ∀ a b : α, toReal (a * b) = toReal a * toReal b
  toReal_div : ∀ a b : α, toReal (a / b) = toReal a / toReal b
  toReal_neg : ∀ a : α, toReal (-a) = -toReal a
  toReal_ofNat : ∀ n : Nat, toReal (OfNat.ofNat n) = n
  toReal_ofScientific : ∀ (m : Nat) (s : Bool) (e : Nat),
    toReal (OfScientific.ofScientific m s e) = OfScientific.ofScientific m s e
  toReal_lt : ∀ a b : α, toReal a < toReal b ↔ a < b
  isFinite : ∀ a : α, Scalar.isFinite a = true

namespace ExactScalar

attribute [simp] toReal_add toReal_sub toReal_mul toReal_div toReal_neg toReal_ofScientific isFinite

section
variable {α : Type} [Scalar α] [ExactScalar α]

@[simp] theorem toReal_zero : toReal (0 : α) = 0 := by exact_mod_cast toReal_ofNat (α := α) 0

@[simp] theorem toReal_one : toReal (1 : α) = 1 := by exact_mod_cast toReal_ofNat (α := α) 1

theorem toReal_inj {a b : α} : toReal a = toReal b ↔ a = b := toReal_injective.eq_iff

end

instance : ExactScalar Rat where
  toReal := fun a => (a : ℝ)
  toReal_injective := Rat.cast_injective
  toReal_add := Rat.cast_add
  toReal_sub := Rat.cast_sub
  toReal_mul := Rat.cast_mul
  toReal_div := Rat.cast_div
  toReal_neg := Rat.cast_neg
  toReal_ofNat := Rat.cast_natCast
  toReal_ofScientific := Rat.cast_ofScientific
  toReal_lt := fun _ _ => Rat.cast_lt
  isFinite := fun _ => rfl

end ExactScalar

open ExactScalar

/-! ## Maps of determinant one -/

namespace Affine

variable {α : Type} [Scalar α] [ExactScalar α]

theorem apply_step (m : Affine α) (y : α) : (m.apply ⟨1, y⟩).x - (m.apply ⟨0, y⟩).x = m.a ∧
    (m.apply ⟨1, y⟩).y - (m.apply ⟨0, y⟩).y = m.b := by
  constructor <;> rw [← toReal_inj] <;> simp [apply, applyVector]

theorem not_one_lt_tiny : ¬(1 : α) < tiny := by
  rw [tiny, ← toReal_lt, toReal_one, toReal_ofScientific]
  norm_num

section
variable {m : Affine α} (hdet : m.det = 1)
include hdet

theorem linear_inverse : m.inverse.a = m.d ∧ m.inverse.b = -m.b ∧ m.inverse.c = -m.c ∧
    m.inverse.d = m.a := by
  refine ⟨?_, ?_, ?_, ?_⟩ <;> rw [← toReal_inj] <;> simp [inverse, hdet]

theorem det_inverse : m.inverse.det = 1 := by
  obtain ⟨ha, hb, hc, hd⟩ := linear_inverse hdet
  rw [det, ← toReal_inj] at hdet ⊢
  rw [ha, hb, hc, hd]
  simp only [toReal_mul, toReal_sub, toReal_neg] at hdet ⊢
  linarith

theorem not_magnitude_det_lt : ¬Scalar.magnitude m.det < (tiny : α) := by
  have hpos : ¬(1 : α) < 0 := by
    rw [← toReal_lt, toReal_zero, toReal_one]
    norm_num
  rw [hdet, Scalar.magnitude, if_neg hpos]
  exact not_one_lt_tiny

theorem handles?_of_det (hunit : m.d * m.d + -m.b * -m.b = 1) : m.handles? = some ⟨m.d, -m.b⟩ := by
  obtain ⟨hx, hy⟩ := m.inverse.apply_step 0.5
  obtain ⟨ha, hb, _, _⟩ := linear_inverse hdet
  rw [handles?, if_neg (not_magnitude_det_lt hdet)]
  simp only [hx, hy, ha, hb, hunit, isFinite, Bool.and_self, Bool.not_true, Bool.false_or,
    decide_eq_true_eq, if_neg not_one_lt_tiny]

end

/-! ## Gradients -/

/-- The turn about the middle of the node, of which a gradient transform is the inverse. -/
def aboutMiddle (cosine sine : α) : Affine α :=
  ((shift 0.5 0.5).mul (turn cosine sine)).mul (shift (-0.5) (-0.5))

section
variable {c s : α}

theorem linear_aboutMiddle : (aboutMiddle c s).a = c ∧ (aboutMiddle c s).b = s ∧
    (aboutMiddle c s).c = -s ∧ (aboutMiddle c s).d = c := by
  refine ⟨?_, ?_, ?_, ?_⟩ <;> rw [← toReal_inj] <;>
    simp [aboutMiddle, mul, shift, turn, applyVector]

variable (h : c * c + s * s = 1)
include h

theorem det_aboutMiddle : (aboutMiddle c s).det = 1 := by
  obtain ⟨ha, hb, hc, hd⟩ := linear_aboutMiddle (c := c) (s := s)
  rw [det, ha, hb, hc, hd, ← h, ← toReal_inj]
  simp

theorem det_gradient : (gradient c s).det = 1 := det_inverse (det_aboutMiddle h)

theorem handles?_gradient : (gradient c s).handles? = some ⟨c, s⟩ := by
  obtain ⟨ha, hb, _, _⟩ := linear_aboutMiddle (c := c) (s := s)
  obtain ⟨_, hb', _, hd'⟩ := linear_inverse (det_aboutMiddle h)
  have hsine : -(-s) = s := by
    rw [← toReal_inj]
    simp
  have hd : (gradient c s).d = c := hd'.trans ha
  have hb : -(gradient c s).b = s := by
    change -(aboutMiddle c s).inverse.b = s
    rw [hb', hb, hsine]
  rw [handles?_of_det (det_gradient h) (by rw [hd, hb, h]), hd, hb]

end

theorem gradientAngle_of_unit [Circular α] {degrees : α}
    (h : Circular.cosine degrees * Circular.cosine degrees +
      Circular.sine degrees * Circular.sine degrees = 1) :
    (ofGradientAngle degrees).gradientAngle =
      Circular.angle (Circular.sine degrees) (Circular.cosine degrees) := by
  rw [gradientAngle, ofGradientAngle, handles?_gradient h]

end Affine

/-- **A gradient transform gives back the direction it was built for.** -/
theorem gradientAngle_ofGradientAngle {α : Type} [Scalar α] [ExactScalar α] {c s : α}
    (h : c * c + s * s = 1) :
    ¬Scalar.magnitude (Affine.ofRows (Affine.gradient c s).rows).det < Affine.tiny ∧
      (Affine.ofRows (Affine.gradient c s).rows).handles? = some ⟨c, s⟩ ∧
        ∀ [Circular α] (degrees : α), Circular.cosine degrees = c → Circular.sine degrees = s →
          (Affine.ofRows (Affine.ofGradientAngle degrees).rows).gradientAngle =
            Circular.angle s c := by
  refine ⟨Affine.not_magnitude_det_lt (Affine.det_gradient h), Affine.handles?_gradient h, ?_⟩
  rintro _ degrees rfl rfl
  exact Affine.gradientAngle_of_unit h

@[reducible] def Circular.sloping : Circular Rat :=
  ⟨fun _ => 4 / 5, fun _ => 3 / 5, fun y x => y / x⟩

theorem sloping_gradientAngle : (4 / 5 : Rat) * (4 / 5) + 3 / 5 * (3 / 5) = 1 ∧
    ¬Scalar.magnitude (Affine.ofRows (Affine.gradient (4 / 5 : Rat) (3 / 5)).rows).det <
      Affine.tiny ∧
      (Affine.ofRows (Affine.gradient (4 / 5 : Rat) (3 / 5)).rows).handles? = some ⟨4 / 5, 3 / 5⟩ ∧
        @Affine.gradientAngle Rat _ (@Affine.ofGradientAngle Rat _ Circular.sloping 37)
          Circular.sloping = 3 / 4 := by
  have hunit : (4 / 5 : Rat) * (4 / 5) + 3 / 5 * (3 / 5) = 1 := by norm_num
  obtain ⟨hregular, hhandles, hangle⟩ := gradientAngle_ofGradientAngle hunit
  have hslope : (3 / 5 : Rat) / (4 / 5) = 3 / 4 := by norm_num
  exact ⟨hunit, hregular, hhandles, (@hangle Circular.sloping 37 rfl rfl).trans hslope⟩

/-! ## Real angles -/

@[reducible] noncomputable def Scalar.real : Scalar ℝ where
  numeral n := ⟨(n : ℝ)⟩
  decideLT := Classical.decRel _
  decideLE := Classical.decRel _
  beq := fun a b => @decide (a = b) (Classical.dec _)
  infinity := 0
  isFinite _ := true
  totalCompare := fun a b => compare a b
  remainder a b := a - b * (if 0 ≤ a / b then ⌊a / b⌋ else ⌈a / b⌉ : Int)
  text _ := ""

@[reducible] noncomputable def ExactScalar.real : @ExactScalar ℝ Scalar.real :=
  @ExactScalar.mk ℝ Scalar.real id Function.injective_id (fun _ _ => rfl) (fun _ _ => rfl)
    (fun _ _ => rfl) (fun _ _ => rfl) (fun _ => rfl) (fun _ => rfl) (fun _ _ _ => rfl)
    (fun _ _ => Iff.rfl) fun _ => rfl

@[reducible] noncomputable def Circular.real : Circular ℝ where
  cosine d := Real.cos (d * (Real.pi / 180))
  sine d := Real.sin (d * (Real.pi / 180))
  angle y x := Complex.arg ⟨x, y⟩ * (180 / Real.pi)

theorem arg_cos_sin {x : ℝ} (hx : x ∈ Set.Ioc (-Real.pi) Real.pi) :
    Complex.arg ⟨Real.cos x, Real.sin x⟩ = x := by
  have hpoint : (⟨Real.cos x, Real.sin x⟩ : ℂ) = Complex.cos x + Complex.sin x * Complex.I := by
    rw [← Complex.ofReal_cos, ← Complex.ofReal_sin]
    exact Complex.mk_eq_add_mul_I _ _
  rw [hpoint, Complex.arg_cos_add_sin_mul_I hx]

/-- An angle of up to half a turn either way is the angle of the gradient built for it. -/
theorem gradientAngle_real {d : ℝ} (hlow : -180 < d) (hhigh : d ≤ 180) :
    @Affine.gradientAngle ℝ Scalar.real
      (@Affine.ofGradientAngle ℝ Scalar.real Circular.real d) Circular.real = d := by
  have hpi := Real.pi_pos
  have hunit : Real.cos (d * (Real.pi / 180)) * Real.cos (d * (Real.pi / 180)) +
      Real.sin (d * (Real.pi / 180)) * Real.sin (d * (Real.pi / 180)) = ((1 : Nat) : ℝ) := by
    rw [Nat.cast_one, ← sq, ← sq, Real.cos_sq_add_sin_sq]
  have hrange : d * (Real.pi / 180) ∈ Set.Ioc (-Real.pi) Real.pi := by
    constructor <;> nlinarith
  have hangle :=
    @Affine.gradientAngle_of_unit ℝ Scalar.real ExactScalar.real Circular.real d hunit
  refine hangle.trans ?_
  change Complex.arg ⟨Real.cos _, Real.sin _⟩ * (180 / Real.pi) = d
  rw [arg_cos_sin hrange]
  field_simp

end Artboard
