import Artboard.Number.Binary
import Mathlib

/-!
# Floats taken apart and put together

Unpacking a float and packing the parts gives the float back, and the parts come back from packing
if they are canonical, as all that is unpacked is. Rounding keeps what can be represented, so floats
of one width survive a stay in a greater width.
-/

open Float.Model UnpackedFloat

namespace Artboard

namespace Packing

variable {spec : Format}

/-! ## Formats -/

theorem two_pow_eq (spec : Format) : 2 ^ (spec.exponentBits - 1) = spec.exponentBias + 1 := by
  have hpos : 1 ≤ 2 ^ (spec.exponentBits - 1) := Nat.one_le_two_pow
  rw [Format.exponentBias]
  omega

theorem minExponent_eq (spec : Format) :
    spec.minExponent = 1 - (spec.exponentBias : Int) - spec.mantissaBitsWithoutImplicit := by
  have hbias : (2 : Int) ^ (spec.exponentBits - 1) = spec.exponentBias + 1 :=
    mod_cast two_pow_eq spec
  rw [Format.minExponent, Format.mantissaBits, hbias]
  omega

theorem two_pow_exponentBits (spec : Format) :
    2 ^ spec.exponentBits = 2 * (spec.exponentBias + 1) := by
  rw [← two_pow_eq, ← Nat.pow_succ', Nat.succ_eq_add_one, Nat.sub_add_cancel spec.he]

theorem two_pow_mantissaBits (spec : Format) :
    2 ^ spec.mantissaBits = 2 * 2 ^ spec.mantissaBitsWithoutImplicit := by
  rw [Format.mantissaBits, Nat.add_comm, Nat.pow_succ']

def maxExponent (spec : Format) : Int := spec.exponentBias - spec.mantissaBitsWithoutImplicit

theorem targetExponent_binary64 (t : Int) :
    Format.binary64.targetExponent t = max (t - 53) (-1074) := rfl

theorem log2_shiftLeft {m : Nat} (hm : 0 < m) (k : Nat) : (m <<< k).log2 = m.log2 + k := by
  have hlow := Nat.log2_self_le (Nat.ne_of_gt hm)
  have hhigh := Nat.lt_log2_self (n := m)
  rw [Nat.shiftLeft_eq, Nat.log2_eq_iff (Nat.ne_of_gt (Nat.mul_pos hm (Nat.two_pow_pos k)))]
  constructor
  · rw [Nat.pow_add]
    exact Nat.mul_le_mul_right _ hlow
  · rw [Nat.add_right_comm, Nat.pow_add]
    exact Nat.mul_lt_mul_of_pos_right hhigh (Nat.two_pow_pos k)

theorem totalExponent_shiftLeft {m : Nat} (hm : 0 < m) {e f : Int} {k : Nat} (he : f + k = e) :
    totalExponent (m <<< k) f = totalExponent m e := by
  rw [totalExponent, totalExponent, log2_shiftLeft hm]
  omega

def Fits (spec : Format) (m : Nat) (e : Int) : Prop := spec.targetExponent (totalExponent m e) = e

theorem fits_iff {m : Nat} (hm : 0 < m) {e : Int} :
    Fits spec m e ↔ (m < 2 ^ spec.mantissaBits ∧ spec.minExponent ≤ e) ∧
      (2 ^ spec.mantissaBitsWithoutImplicit ≤ m ∨ e = spec.minExponent) := by
  rw [← Nat.log2_lt (Nat.ne_of_gt hm), ← Nat.le_log2 (Nat.ne_of_gt hm)]
  unfold Fits Format.targetExponent totalExponent Format.mantissaBits
  omega

/-! ## Packed floats -/

/-- What can be packed: numbers have the exponent that belongs to them, and it is in range. -/
def IsCanonical (spec : Format) : UnpackedFloat → Prop
  | .finite _ m e _ => Fits spec m e ∧ e ≤ maxExponent spec
  | _ => True

theorem toNat_append_one {w : Nat} (v : BitVec w) : (1#1 ++ v).toNat = 2 ^ w + v.toNat := by
  rw [BitVec.toNat_append, ← Nat.shiftLeft_add_eq_or_of_lt v.isLt]
  simp [Nat.shiftLeft_eq]

theorem ofBitVec_toBitVec (s : UnpackedFloat.Sign) : .ofBitVec s.toBitVec = s := by
  cases s <;> rfl

theorem toBitVec_ofBitVec : ∀ b : BitVec 1, (UnpackedFloat.Sign.ofBitVec b).toBitVec = b := by
  decide

theorem unpackSign_packComponents (s : UnpackedFloat.Sign) (e : BitVec spec.exponentBits)
    (m : BitVec spec.mantissaBitsWithoutImplicit) :
    unpackSign (packComponents spec s e m) = s.toBitVec := by
  rw [BitVec.eq_of_getLsbD_eq_iff]
  intro i hi
  obtain rfl := Nat.lt_one_iff.mp hi
  simp [unpackSign, packComponents, BitVec.getLsbD_append, BitVec.getElem_append]

theorem packComponents_unpack {b : BitVec spec.numBits} {e : BitVec spec.exponentBits}
    {m : BitVec spec.mantissaBitsWithoutImplicit} (he : unpackExponent b = e)
    (hm : unpackMantissa b = m) : packComponents spec (.ofBitVec (unpackSign b)) e m = b := by
  subst he hm
  have := spec.hm
  have := spec.he
  rw [packComponents, toBitVec_ofBitVec]
  unfold unpackSign unpackExponent unpackMantissa BitVec.extractLsb
  ext i hi
  grind

theorem ne_neg_one_iff {n : Nat} {x : BitVec n} : x ≠ -1#n ↔ x.toNat + 1 < 2 ^ n := by
  have := x.isLt
  rw [Ne, ← BitVec.toNat_inj, BitVec.neg_one_eq_allOnes, BitVec.toNat_allOnes]
  omega

section
variable (s : UnpackedFloat.Sign) (v : BitVec spec.mantissaBitsWithoutImplicit)

def subnormal (hv : 0 < v.toNat) : UnpackedFloat := .finite s v.toNat spec.minExponent hv

def normal (x : BitVec spec.exponentBits) : UnpackedFloat :=
  .finite s (1#1 ++ v).toNat (x.toNat - (spec.exponentBias + spec.mantissaBitsWithoutImplicit))
    (by rw [toNat_append_one]; exact Nat.add_pos_left (Nat.two_pow_pos _) _)

variable {v} (hbias : 0 < spec.exponentBias)
include hbias

theorem zero_ne_neg_one : (0#_ : BitVec spec.exponentBits) ≠ -1#_ := by
  rw [ne_neg_one_iff, two_pow_exponentBits, BitVec.toNat_zero]
  omega

theorem pack_subnormal (hv : 0 < v.toNat) :
    UnpackedFloat.pack spec (subnormal s v hv) = packComponents spec s 0#_ v := by
  have hlog : v.toNat.log2 < spec.mantissaBitsWithoutImplicit :=
    (Nat.log2_lt (Nat.ne_of_gt hv)).mpr v.isLt
  have hexp : (spec.minExponent + spec.exponentBias + spec.mantissaBitsWithoutImplicit).toNat = 1 := by
    rw [minExponent_eq]
    omega
  have hrange : ¬ 2 ^ spec.exponentBits ≤ 1 + 1 := by
    rw [two_pow_exponentBits]
    omega
  have hbits : ¬ v.toNat.log2 + 1 = spec.mantissaBits := by
    rw [Format.mantissaBits]
    omega
  simp only [subnormal, UnpackedFloat.pack, hexp, if_neg hrange, if_neg hbits, BitVec.ofNat_toNat,
    BitVec.setWidth_eq]

theorem unpack_subnormal (hv : 0 < v.toNat) :
    UnpackedFloat.unpack spec (packComponents spec s 0#_ v) = subnormal s v hv := by
  have hne : v ≠ 0#_ := by
    rintro rfl
    simp at hv
  have hexp : ((0#_ : BitVec spec.exponentBits).toNat : Int) -
      (spec.exponentBias + spec.mantissaBitsWithoutImplicit) + 1 = spec.minExponent := by
    rw [minExponent_eq, BitVec.toNat_zero]
    omega
  simp only [UnpackedFloat.unpack, unpackExponent_packComponents, unpackMantissa_packComponents,
    unpackSign_packComponents, ofBitVec_toBitVec, if_neg (zero_ne_neg_one hbias), if_true,
    dif_neg hne, hexp, subnormal]

omit hbias

theorem pack_normal {x : BitVec spec.exponentBits} (hx : x ≠ -1#_) :
    UnpackedFloat.pack spec (normal s v x) = packComponents spec s x v := by
  have hmant := toNat_append_one v
  have hlog : (1#1 ++ v).toNat.log2 + 1 = spec.mantissaBits := by
    have := v.isLt
    rw [Format.mantissaBits, Nat.add_comm, Nat.add_left_cancel_iff, Nat.log2_eq_iff (by omega),
      Nat.pow_succ]
    omega
  have hexp : (x.toNat - (spec.exponentBias + spec.mantissaBitsWithoutImplicit : Int) +
      spec.exponentBias + spec.mantissaBitsWithoutImplicit).toNat = x.toNat := by omega
  have hrange : ¬ 2 ^ spec.exponentBits ≤ x.toNat + 1 := Nat.not_le.mpr (ne_neg_one_iff.mp hx)
  have hv : BitVec.ofNat _ (1#1 ++ v).toNat = v := by
    rw [← BitVec.toNat_inj, BitVec.toNat_ofNat, hmant, Nat.add_mod_left, Nat.mod_eq_of_lt v.isLt]
  simp only [normal, UnpackedFloat.pack, hexp, if_neg hrange, hlog, if_true, hv, BitVec.ofNat_toNat,
    BitVec.setWidth_eq]

theorem unpack_normal {x : BitVec spec.exponentBits} (hx : x ≠ -1#_) (hx₀ : x ≠ 0#_) :
    UnpackedFloat.unpack spec (packComponents spec s x v) = normal s v x := by
  simp only [UnpackedFloat.unpack, unpackExponent_packComponents, unpackMantissa_packComponents,
    unpackSign_packComponents, ofBitVec_toBitVec, if_neg hx, if_neg hx₀, normal]

end

inductive Unpacks (b : BitVec spec.numBits) : UnpackedFloat → Prop
  | infinity (hx : unpackExponent b = -1#_) (hv : unpackMantissa b = 0#_) :
      Unpacks b (.infinity (.ofBitVec (unpackSign b)))
  | notANumber (hx : unpackExponent b = -1#_) (hv : unpackMantissa b ≠ 0#_) : Unpacks b .notANumber
  | zero (hx : unpackExponent b = 0#_) (hv : unpackMantissa b = 0#_) :
      Unpacks b (.zero (.ofBitVec (unpackSign b)))
  | subnormal (hx : unpackExponent b = 0#_) (hv : 0 < (unpackMantissa b).toNat) :
      Unpacks b (subnormal (.ofBitVec (unpackSign b)) (unpackMantissa b) hv)
  | normal (hx : unpackExponent b ≠ -1#_) (hx₀ : unpackExponent b ≠ 0#_) :
      Unpacks b (normal (.ofBitVec (unpackSign b)) (unpackMantissa b) (unpackExponent b))

section
variable (hbias : 0 < spec.exponentBias)
include hbias

theorem unpacks (b : BitVec spec.numBits) : Unpacks b (UnpackedFloat.unpack spec b) := by
  by_cases hx : unpackExponent b = -1#_
  · by_cases hv : unpackMantissa b = 0#_
    · simpa only [UnpackedFloat.unpack, if_pos hx, if_pos hv] using Unpacks.infinity hx hv
    · simpa only [UnpackedFloat.unpack, if_pos hx, if_neg hv] using Unpacks.notANumber hx hv
  by_cases hx₀ : unpackExponent b = 0#_
  · by_cases hv : unpackMantissa b = 0#_
    · simpa only [UnpackedFloat.unpack, if_neg hx, if_pos hx₀, dif_pos hv] using Unpacks.zero hx₀ hv
    · have hpos : 0 < (unpackMantissa b).toNat :=
        Nat.pos_of_ne_zero fun h => hv (BitVec.eq_of_toNat_eq h)
      have hb := unpack_subnormal (.ofBitVec (unpackSign b)) hbias hpos
      rw [packComponents_unpack hx₀ rfl] at hb
      rw [hb]
      exact .subnormal hx₀ hpos
  · have hb := unpack_normal (.ofBitVec (unpackSign b)) (v := unpackMantissa b) hx hx₀
    rw [packComponents_unpack rfl rfl] at hb
    rw [hb]
    exact .normal hx hx₀

theorem pack_unpack {b : BitVec spec.numBits} (h : spec.Valid b) :
    UnpackedFloat.pack spec (UnpackedFloat.unpack spec b) = b := by
  have hb := unpacks hbias b
  generalize UnpackedFloat.unpack spec b = u at hb ⊢
  cases hb with
  | infinity hx hv => exact packComponents_unpack hx hv
  | notANumber hx hv => exact (h.eq_packedNaN hx hv).symm
  | zero hx hv => exact packComponents_unpack hx hv
  | subnormal hx hv =>
    rw [pack_subnormal _ hbias hv]
    exact packComponents_unpack hx rfl
  | normal hx hx₀ =>
    rw [pack_normal _ hx]
    exact packComponents_unpack rfl rfl

theorem isCanonical_subnormal (s : UnpackedFloat.Sign) {v : BitVec spec.mantissaBitsWithoutImplicit}
    (hv : 0 < v.toNat) : IsCanonical spec (subnormal s v hv) := by
  have hlt := v.isLt
  refine ⟨(fits_iff hv).mpr ⟨⟨?_, le_rfl⟩, .inr rfl⟩, ?_⟩
  · rw [two_pow_mantissaBits]
    omega
  · rw [minExponent_eq, maxExponent]
    omega

omit hbias in
theorem isCanonical_normal (s : UnpackedFloat.Sign) (v : BitVec spec.mantissaBitsWithoutImplicit)
    {x : BitVec spec.exponentBits} (hx : x ≠ -1#_) (hx₀ : x ≠ 0#_) :
    IsCanonical spec (normal s v x) := by
  have hlt := v.isLt
  have hm := toNat_append_one v
  have hpos : 0 < x.toNat := Nat.pos_of_ne_zero fun h => hx₀ (BitVec.eq_of_toNat_eq h)
  have hmax := ne_neg_one_iff.mp hx
  rw [two_pow_exponentBits] at hmax
  refine ⟨(fits_iff (by omega)).mpr ⟨⟨?_, ?_⟩, .inl (by omega)⟩, ?_⟩
  · rw [two_pow_mantissaBits]
    omega
  · rw [minExponent_eq]
    omega
  · rw [maxExponent]
    omega

theorem isCanonical_unpack (b : BitVec spec.numBits) :
    IsCanonical spec (UnpackedFloat.unpack spec b) := by
  have hb := unpacks hbias b
  generalize UnpackedFloat.unpack spec b = u at hb ⊢
  cases hb with
  | infinity | notANumber | zero => trivial
  | subnormal hx hv => exact isCanonical_subnormal hbias _ hv
  | normal hx hx₀ => exact isCanonical_normal _ _ hx hx₀

omit hbias in
theorem exists_of_isCanonical {s : UnpackedFloat.Sign} {m : Nat} {e : Int} {hm : 0 < m}
    (h : IsCanonical spec (.finite s m e hm)) :
    (∃ v : BitVec spec.mantissaBitsWithoutImplicit, ∃ hv, .finite s m e hm = subnormal s v hv) ∨
      ∃ v, ∃ x : BitVec spec.exponentBits, x ≠ -1#_ ∧ x ≠ 0#_ ∧ .finite s m e hm = normal s v x := by
  obtain ⟨hfits, hmax⟩ := h
  obtain ⟨⟨hlt, hmin⟩, hcases⟩ := (fits_iff hm).mp hfits
  rw [two_pow_mantissaBits] at hlt
  -- a normal value has its leading bit, a subnormal one the least exponent
  by_cases hlead : 2 ^ spec.mantissaBitsWithoutImplicit ≤ m
  · right
    rw [minExponent_eq] at hmin
    rw [maxExponent] at hmax
    obtain ⟨n, hn⟩ : ∃ n : Nat, (n : Int) = e + spec.exponentBias + spec.mantissaBitsWithoutImplicit :=
      ⟨_, Int.toNat_of_nonneg (by omega)⟩
    obtain ⟨k, rfl⟩ := Nat.exists_eq_add_of_le hlead
    have hx : (BitVec.ofNat spec.exponentBits n).toNat = n :=
      Nat.mod_eq_of_lt (by rw [two_pow_exponentBits]; omega)
    have hv : (BitVec.ofNat spec.mantissaBitsWithoutImplicit k).toNat = k :=
      Nat.mod_eq_of_lt (by omega)
    refine ⟨.ofNat _ k, .ofNat _ n, ?_, ?_, ?_⟩
    · rw [ne_neg_one_iff, hx, two_pow_exponentBits]
      omega
    · rw [Ne, ← BitVec.toNat_inj, hx, BitVec.toNat_zero]
      omega
    · simp only [normal, toNat_append_one, hx, hv, UnpackedFloat.finite.injEq, true_and]
      omega
  · left
    have hv : (BitVec.ofNat spec.mantissaBitsWithoutImplicit m).toNat = m :=
      Nat.mod_eq_of_lt (by omega)
    refine ⟨.ofNat _ m, hv.symm ▸ hm, ?_⟩
    simp only [subnormal, hv, hcases.resolve_left hlead]

theorem unpack_pack {u : UnpackedFloat} (h : IsCanonical spec u) :
    UnpackedFloat.unpack spec (UnpackedFloat.pack spec u) = u := by
  cases u with
  | infinity s =>
    simp only [UnpackedFloat.pack, packedInfinity, UnpackedFloat.unpack, unpackExponent_packComponents,
      unpackMantissa_packComponents, unpackSign_packComponents, ofBitVec_toBitVec, if_true]
    rfl
  | notANumber =>
    have hm := spec.hm
    -- the mantissa of a quiet NaN is not zero, which would mean infinity
    have hv : 1#_ <<< (spec.mantissaBitsWithoutImplicit - 1) ≠
        (0#_ : BitVec spec.mantissaBitsWithoutImplicit) := fun h => by
      have hbit := congrArg (BitVec.getLsbD · (spec.mantissaBitsWithoutImplicit - 1)) h
      simp at hbit
      omega
    simp only [UnpackedFloat.pack, packedNaN, UnpackedFloat.unpack, unpackExponent_packComponents,
      unpackMantissa_packComponents, if_true, if_neg hv]
  | zero s =>
    have hx : (0 : BitVec spec.exponentBits) ≠ -1#_ := zero_ne_neg_one hbias
    simp only [UnpackedFloat.pack, packedZero, UnpackedFloat.unpack, unpackExponent_packComponents,
      unpackMantissa_packComponents, unpackSign_packComponents, ofBitVec_toBitVec, if_neg hx]
    rfl
  | finite s m e hm =>
    obtain ⟨v, hv, hu⟩ | ⟨v, x, hx, hx₀, hu⟩ := exists_of_isCanonical h
    · rw [hu, pack_subnormal s hbias hv, unpack_subnormal s hbias hv]
    · rw [hu, pack_normal s hx, unpack_normal s hx hx₀]

end

/-! ## Rounding -/

theorem shiftLeft_shiftRight (m k : Nat) :
    (⟨m <<< k, false, false⟩ : ExtendedMantissa) >>> k = ⟨m, false, false⟩ := by
  change k.repeat ExtendedMantissa.shiftRightOne _ = _
  induction k generalizing m with
  | zero => rfl
  | succ k ih =>
    rw [Nat.shiftLeft_succ_inside, Nat.repeat, ih]
    simp [ExtendedMantissa.shiftRightOne]

section
variable {m : Nat} (hm : 0 < m) {e f : Int} {k : Nat}
include hm

theorem shiftToTargetExponent_of_fits (h : Fits spec m e) (he : f + k = e) :
    shiftToTargetExponent spec (m <<< k) f .exact = (⟨m, false, false⟩, e) := by
  have htarget : spec.targetExponent (totalExponent (m <<< k) f) = e :=
    (congrArg _ (totalExponent_shiftLeft hm he)).trans h
  have hk : (e - f).toNat = k := by omega
  simp only [shiftToTargetExponent, htarget, shiftToExponent, hk, he,
    ExtendedMantissa.ofMantissaAndAccuracy, shiftLeft_shiftRight]

theorem roundWithAccuracy_of_fits (s : UnpackedFloat.Sign) (h : Fits spec m e) (he : f + k = e) :
    roundWithAccuracy spec s (m <<< k) f .exact = .finite s m e hm := by
  have hsame : shiftToTargetExponent spec m e .exact = (⟨m, false, false⟩, e) :=
    shiftToTargetExponent_of_fits hm h (k := 0) (Int.add_zero e)
  have hround : (⟨m, false, false⟩ : ExtendedMantissa).roundedMantissa = m := rfl
  simp only [roundWithAccuracy, shiftToTargetExponent_of_fits hm h he, hround, hsame,
    dif_neg (Nat.ne_of_gt hm)]

theorem round_of_fits (s : UnpackedFloat.Sign) (h : Fits spec m e) (he : f + k = e) :
    UnpackedFloat.round spec s (m <<< k) f = .finite s m e hm := by
  have htarget : spec.targetExponent (totalExponent (m <<< k) f) = e :=
    (congrArg _ (totalExponent_shiftLeft hm he)).trans h
  have hk : (f - e).toNat = 0 := by omega
  simp only [UnpackedFloat.round, htarget, decreaseExponent, hk]
  exact roundWithAccuracy_of_fits hm s h (by omega)

theorem round_of_room (s : UnpackedFloat.Sign) (he : f + k = e)
    (h : spec.targetExponent (totalExponent m e) = f) :
    ∃ hk : 0 < m <<< k, UnpackedFloat.round spec s m e = .finite s (m <<< k) f hk ∧
      Fits spec (m <<< k) f := by
  have hpos : 0 < m <<< k := by
    rw [Nat.shiftLeft_eq]
    exact Nat.mul_pos hm (Nat.two_pow_pos k)
  have hfits : Fits spec (m <<< k) f :=
    (congrArg _ (totalExponent_shiftLeft hm he)).trans h
  have hk : (e - f).toNat = k := by omega
  have hf : e - k = f := by omega
  refine ⟨hpos, ?_, hfits⟩
  simp only [UnpackedFloat.round, h, decreaseExponent, hk, hf]
  exact roundWithAccuracy_of_fits hpos s hfits (k := 0) (Int.add_zero f)

end

end Packing

/-! ## Floats -/

open Packing

/-- A type of floats that are all that its format can pack. -/
class LawfulFloat (φ : Type) [BinaryFloat φ] : Prop where
  pack_unpack (x : φ) : BinaryFloat.pack (BinaryFloat.unpack x) = x
  unpack_pack {u : UnpackedFloat} (h : IsCanonical (BinaryFloat.format φ) u) :
    BinaryFloat.unpack (BinaryFloat.pack u : φ) = u
  isCanonical (x : φ) : IsCanonical (BinaryFloat.format φ) (BinaryFloat.unpack x)

theorem toBits_ofBits64 (b : UInt64) : (Float.ofBits b).toBits.toBitVec =
    UnpackedFloat.pack .binary64 (UnpackedFloat.unpack .binary64 b.toBitVec) := rfl

theorem toBits_ofBits32 (b : UInt32) : (Float32.ofBits b).toBits.toBitVec =
    UnpackedFloat.pack .binary32 (UnpackedFloat.unpack .binary32 b.toBitVec) := rfl

theorem toBits_pack64 (u : UnpackedFloat) :
    (BinaryFloat.pack u : Float).toBits.toBitVec = UnpackedFloat.pack .binary64 u :=
  (toBits_ofBits64 _).trans (@pack_unpack .binary64 (by decide) _ valid_pack)

theorem toBits_pack32 (u : UnpackedFloat) :
    (BinaryFloat.pack u : Float32).toBits.toBitVec = UnpackedFloat.pack .binary32 u :=
  (toBits_ofBits32 _).trans (@pack_unpack .binary32 (by decide) _ valid_pack)

theorem toBits_injective64 {x y : Float} (h : x.toBits.toBitVec = y.toBits.toBitVec) : x = y := by
  obtain ⟨⟨⟨b⟩, hx⟩⟩ := x
  obtain ⟨⟨⟨c⟩, hy⟩⟩ := y
  cases show b = c from h
  rfl

theorem toBits_injective32 {x y : Float32} (h : x.toBits.toBitVec = y.toBits.toBitVec) : x = y := by
  obtain ⟨⟨⟨b⟩, hx⟩⟩ := x
  obtain ⟨⟨⟨c⟩, hy⟩⟩ := y
  cases show b = c from h
  rfl

instance : LawfulFloat Float where
  pack_unpack x :=
    toBits_injective64
      ((toBits_pack64 _).trans (@pack_unpack .binary64 (by decide) _ x.toModel.valid))
  unpack_pack h :=
    (congrArg (UnpackedFloat.unpack .binary64) (toBits_pack64 _)).trans
      (@unpack_pack .binary64 (by decide) _ h)
  isCanonical x := @isCanonical_unpack .binary64 (by decide) x.toBits.toBitVec

instance : LawfulFloat Float32 where
  pack_unpack x :=
    toBits_injective32
      ((toBits_pack32 _).trans (@pack_unpack .binary32 (by decide) _ x.toModel.valid))
  unpack_pack h :=
    (congrArg (UnpackedFloat.unpack .binary32) (toBits_pack32 _)).trans
      (@unpack_pack .binary32 (by decide) _ h)
  isCanonical x := @isCanonical_unpack .binary32 (by decide) x.toBits.toBitVec

namespace BinaryFloat

variable {φ ψ : Type} [BinaryFloat φ] [BinaryFloat ψ]

def IsFinite (x : φ) : Prop := (unpack x).isFinite = true

instance (x : φ) : Decidable (IsFinite x) := inferInstanceAs (Decidable (_ = _))

theorem nearest_of_pos (s : UnpackedFloat.Sign) {m : Nat} (hm : 0 < m) (e : Int) :
    (nearest s m e : φ) = pack (round (format φ) s m e) := by
  rw [nearest, if_neg (Nat.ne_of_gt hm)]

theorem convert_of_finite {x : φ} {s : UnpackedFloat.Sign} {m : Nat} {e : Int} {hm : 0 < m}
    (h : unpack x = .finite s m e hm) : (convert x : ψ) = pack (round (format ψ) s m e) := by
  rw [convert, h, ← nearest_of_pos s hm]

variable [LawfulFloat φ]

theorem pack_of_unpack {x : φ} {u : UnpackedFloat} (h : unpack x = u) : pack u = x := by
  rw [← h, LawfulFloat.pack_unpack]

/-- A float is the nearest value of its own width. -/
theorem convert_self (x : φ) : (convert x : φ) = x := by
  cases hu : unpack x with
  | finite s m e hm =>
    have hfits := LawfulFloat.isCanonical x
    rw [hu] at hfits
    have hround : round (format φ) s m e = .finite s m e hm :=
      round_of_fits hm s hfits.1 (k := 0) (Int.add_zero e)
    rw [convert_of_finite hu, hround, pack_of_unpack hu]
  | infinity | notANumber | zero =>
    rw [convert, hu]
    exact pack_of_unpack hu

/-- **Single precision values survive a stay in double precision.** -/
theorem convert_convert {x : Float32} (hx : IsFinite x) :
    (convert (convert x : Float) : Float32) = x := by
  cases hu : unpack x with
  | infinity | notANumber =>
    rw [IsFinite, hu] at hx
    cases hx
  | zero s =>
    have hwide : unpack (convert x : Float) = .zero s := by
      rw [convert, hu]
      exact LawfulFloat.unpack_pack trivial
    rw [convert, hwide]
    exact pack_of_unpack hu
  | finite s m e hm =>
    have hfits := LawfulFloat.isCanonical x
    rw [hu] at hfits
    obtain ⟨hfits, hmax⟩ := hfits
    obtain ⟨⟨hlt, hmin⟩, _⟩ := (fits_iff hm).mp hfits
    rw [← Nat.log2_lt (Nat.ne_of_gt hm)] at hlt
    change m.log2 < 24 at hlt
    change -149 ≤ e at hmin
    change e ≤ 104 at hmax
    -- double precision has room below: the exponent falls, and zeros are shifted in
    have htarget : Format.binary64.targetExponent (totalExponent m e) ≤ e := by
      rw [targetExponent_binary64, totalExponent]
      omega
    obtain ⟨f, hf⟩ : ∃ f, Format.binary64.targetExponent (totalExponent m e) = f := ⟨_, rfl⟩
    obtain ⟨k, hk⟩ := Int.le.dest (hf ▸ htarget)
    obtain ⟨hpos, hround, hwide⟩ := round_of_room hm s hk hf
    have hle : f ≤ maxExponent Format.binary64 := by
      change f ≤ 971
      omega
    have hx : unpack (convert x : Float) = .finite s (m <<< k) f hpos := by
      rw [convert_of_finite hu]
      change unpack (pack (round Format.binary64 s m e)) = _
      rw [hround]
      exact LawfulFloat.unpack_pack ⟨hwide, hle⟩
    -- shifting them out again loses nothing
    have hback : round (format Float32) s (m <<< k) f = .finite s m e hm := round_of_fits hm s hfits hk
    rw [convert_of_finite hx, hback, pack_of_unpack hu]

end BinaryFloat

end Artboard
