import Artboard.Json.Value
import Artboard.Json.Numeral
import Artboard.Proofs.Packing

/-!
# Numerals stand for finite numbers

How far rounding may move an exponent, and from this that no numeral is read as an infinity or as
no number: what is scaled up is looked at, and what is scaled down starts with 64 bits.
-/

open Float.Model UnpackedFloat

namespace Artboard

namespace Packing

variable {spec : Format}

/-! ## How far rounding moves exponents -/

/-- What a number is rounded to if this exponent is aimed at. -/
inductive Rounds (spec : Format) (t : Int) : UnpackedFloat → Prop
  | zero (s : UnpackedFloat.Sign) (ht : t = spec.minExponent) : Rounds spec t (.zero s)
  | finite (s : UnpackedFloat.Sign) {m : Nat} {e : Int} {hm : 0 < m} (hfits : Fits spec m e)
      (hlow : t ≤ e) (hhigh : e ≤ t + 1) : Rounds spec t (.finite s m e hm)

theorem mantissa_shiftRight (em : ExtendedMantissa) (k : Nat) :
    (em >>> k).mantissa = em.mantissa / 2 ^ k := by
  change (k.repeat ExtendedMantissa.shiftRightOne em).mantissa = _
  induction k with
  | zero => exact (Nat.div_one _).symm
  | succ k ih =>
    change (k.repeat ExtendedMantissa.shiftRightOne em).mantissa / 2 = _
    rw [ih, Nat.div_div_eq_div_mul, Nat.pow_succ]

theorem mantissa_ofMantissaAndAccuracy (m : Nat) (acc : Accuracy) :
    (ExtendedMantissa.ofMantissaAndAccuracy m acc).mantissa = m := by
  cases acc with
  | exact => rfl
  | inexact o => cases o <;> rfl

theorem roundedMantissa_bounds (em : ExtendedMantissa) :
    em.mantissa ≤ em.roundedMantissa ∧ em.roundedMantissa ≤ em.mantissa + 1 := by
  obtain ⟨m, r, s⟩ := em
  cases r <;> cases s <;>
    simp [ExtendedMantissa.roundedMantissa, ExtendedMantissa.accuracy, Accuracy.roundToNearestEven]
  omega

theorem rounds_carry (s : UnpackedFloat.Sign) {r : Nat} {t : Int} (hr : r ≤ 2 ^ spec.mantissaBits)
    (ht : spec.minExponent ≤ t)
    (hlead : 2 ^ spec.mantissaBitsWithoutImplicit ≤ r ∨ t = spec.minExponent) :
    let p := shiftToTargetExponent spec r t .exact
    Rounds spec t (if h : p.1.mantissa = 0 then .zero s
      else .finite s p.1.mantissa p.2 (Nat.pos_of_ne_zero h)) := by
  intro p
  -- nothing is left, or all of it fits, or the carry has made the mantissa one bit longer
  obtain rfl | hpos := Nat.eq_zero_or_pos r
  · have hp : p.1.mantissa = 0 := by
      change (_ >>> _ : ExtendedMantissa).mantissa = 0
      rw [mantissa_shiftRight]
      exact Nat.zero_div _
    rw [dif_pos hp]
    exact .zero s (hlead.resolve_left (Nat.not_le.mpr (Nat.two_pow_pos _)))
  obtain hlt | rfl := Nat.lt_or_eq_of_le hr
  · have hfits : Fits spec r t := (fits_iff hpos).mpr ⟨⟨hlt, ht⟩, hlead⟩
    have hp : p = (⟨r, false, false⟩, t) :=
      shiftToTargetExponent_of_fits hpos hfits (k := 0) (Int.add_zero t)
    rw [hp, dif_neg (Nat.ne_of_gt hpos)]
    exact .finite s hfits le_rfl (by omega)
  · have hhalf : 2 ^ spec.mantissaBits = 2 ^ spec.mantissaBitsWithoutImplicit <<< 1 := by
      rw [two_pow_mantissaBits, Nat.shiftLeft_succ_inside, Nat.shiftLeft_zero]
    have hpos := Nat.two_pow_pos spec.mantissaBitsWithoutImplicit
    have hfits : Fits spec (2 ^ spec.mantissaBitsWithoutImplicit) (t + 1) :=
      (fits_iff hpos).mpr ⟨⟨by rw [two_pow_mantissaBits]; omega, by omega⟩, .inl le_rfl⟩
    have hp : p = (⟨2 ^ spec.mantissaBitsWithoutImplicit, false, false⟩, t + 1) := by
      change shiftToTargetExponent spec (2 ^ spec.mantissaBits) t .exact = _
      rw [hhalf]
      exact shiftToTargetExponent_of_fits hpos hfits rfl
    rw [hp, dif_neg (Nat.ne_of_gt hpos)]
    exact .finite s hfits (by omega) le_rfl

theorem rounds_roundWithAccuracy (s : UnpackedFloat.Sign) {m : Nat} {e t : Int} (acc : Accuracy)
    (ht : spec.targetExponent (totalExponent m e) = t) (he : e ≤ t) :
    Rounds spec t (roundWithAccuracy spec s m e acc) := by
  obtain ⟨k, hk⟩ := Int.le.dest he
  have hshift : (t - e).toNat = k := by omega
  obtain ⟨hlow, hhigh⟩ := roundedMantissa_bounds
    (ExtendedMantissa.ofMantissaAndAccuracy m acc >>> k)
  rw [mantissa_shiftRight, mantissa_ofMantissaAndAccuracy] at hlow hhigh
  have hmin : spec.minExponent ≤ t := by
    rw [← ht]
    exact le_max_right _ _
  -- what the shift leaves fits the mantissa
  have hquot : m / 2 ^ k < 2 ^ spec.mantissaBits := by
    have hlog : m.log2 + 1 ≤ spec.mantissaBits + k := by
      unfold Format.targetExponent totalExponent at ht
      omega
    rw [Nat.div_lt_iff_lt_mul (Nat.two_pow_pos k), ← Nat.pow_add]
    exact Nat.lt_log2_self.trans_le (Nat.pow_le_pow_right Nat.two_pos hlog)
  -- and keeps its leading bit unless the exponent is the least
  have hlead : 2 ^ spec.mantissaBitsWithoutImplicit ≤ m / 2 ^ k ∨ t = spec.minExponent := by
    rw [or_iff_not_imp_right]
    intro hne
    have hlog : m.log2 = spec.mantissaBitsWithoutImplicit + k := by
      unfold Format.targetExponent totalExponent Format.mantissaBits at ht
      omega
    have hm : m ≠ 0 := by
      rintro rfl
      have := spec.hm
      rw [Nat.log2_zero] at hlog
      omega
    rw [Nat.le_div_iff_mul_le (Nat.two_pow_pos k), ← Nat.pow_add, ← hlog]
    exact Nat.log2_self_le hm
  simp only [roundWithAccuracy, shiftToTargetExponent, ht, shiftToExponent, hshift, hk]
  exact rounds_carry s (by omega) hmin (hlead.imp_left fun h => h.trans hlow)

/-! ## Floats of bounded exponent -/

def IsBelow (k : Int) : UnpackedFloat → Prop
  | .zero _ => True
  | .finite _ _ e _ => e ≤ k
  | _ => False

def isCoarse : UnpackedFloat → Bool
  | .finite _ _ e _ => -52 ≤ e
  | _ => false

theorem IsBelow.isFinite {k : Int} {u : UnpackedFloat} (h : IsBelow k u) : u.isFinite = true := by
  cases u with
  | zero | finite => rfl
  | infinity | notANumber => cases h

theorem isFinite_of_isCoarse {u : UnpackedFloat} (h : isCoarse u = true) : u.isFinite = true := by
  cases u with
  | zero | finite => rfl
  | infinity | notANumber => cases h

theorem IsBelow.mono {k l : Int} (hkl : k ≤ l) {u : UnpackedFloat} (h : IsBelow k u) :
    IsBelow l u := by
  cases u with
  | zero => trivial
  | finite s m e hm => exact le_trans h hkl
  | infinity | notANumber => cases h

theorem isCanonical_neg {u : UnpackedFloat} (h : IsCanonical spec u) : IsCanonical spec u.neg := by
  cases u <;> exact h

theorem Rounds.isBelow {t : Int} {u : UnpackedFloat} (h : Rounds spec t u) : IsBelow (t + 1) u := by
  cases h with
  | zero => trivial
  | finite s hfits hlow hhigh => exact hhigh

theorem Rounds.isCanonical {t : Int} (ht : t < maxExponent spec) {u : UnpackedFloat}
    (h : Rounds spec t u) : IsCanonical spec u := by
  cases h with
  | zero => trivial
  | finite s hfits hlow hhigh => exact ⟨hfits, by omega⟩

theorem Rounds.isCoarse {t : Int} (hlow : -52 ≤ t) (hmin : t ≠ spec.minExponent)
    {u : UnpackedFloat} (h : Rounds spec t u) : isCoarse u = true := by
  cases h with
  | zero s ht => exact absurd ht hmin
  | finite s hfits hle _ => exact decide_eq_true (hlow.trans hle)

theorem rounds_round (s : UnpackedFloat.Sign) {m : Nat} (hm : 0 < m) {e t : Int}
    (ht : spec.targetExponent (totalExponent m e) = t) :
    Rounds spec t (UnpackedFloat.round spec s m e) := by
  obtain hle | hlt := le_or_gt t e
  · obtain ⟨k, hk⟩ := Int.le.dest hle
    obtain ⟨_, hround, hfits⟩ := round_of_room hm s hk ht
    rw [hround]
    exact .finite s hfits le_rfl (by omega)
  · have hk : (e - t).toNat = 0 := by omega
    simp only [UnpackedFloat.round, ht, decreaseExponent, hk, Nat.shiftLeft_zero]
    exact rounds_roundWithAccuracy s .exact (by simpa using ht) (by simpa using hlt.le)

/-! ## Quotients -/

theorem log2_le_log2_div (m : Nat) {n : Nat} (hn : 0 < n) :
    m.log2 ≤ (m / n).log2 + n.log2 + 1 := by
  obtain rfl | hm := Nat.eq_zero_or_pos m
  · rw [Nat.log2_zero]
    exact Nat.zero_le _
  have hlt : m < 2 ^ (n.log2 + 1) * 2 ^ ((m / n).log2 + 1) :=
    calc m < n * (m / n + 1) := Nat.lt_mul_div_succ m hn
      _ ≤ 2 ^ (n.log2 + 1) * 2 ^ ((m / n).log2 + 1) :=
        Nat.mul_le_mul Nat.lt_log2_self.le Nat.lt_log2_self
  rw [← Nat.pow_add, ← Nat.log2_lt (Nat.ne_of_gt hm)] at hlt
  omega

theorem log2_div_add_log2_le {m n : Nat} (hn : 0 < n) (h : n ≤ m) :
    (m / n).log2 + n.log2 ≤ m.log2 := by
  have hquot : m / n ≠ 0 := Nat.ne_of_gt (Nat.div_pos h hn)
  rw [Nat.le_log2 (Nat.ne_of_gt (hn.trans_le h)), Nat.pow_add]
  calc 2 ^ (m / n).log2 * 2 ^ n.log2
      ≤ m / n * n := Nat.mul_le_mul (Nat.log2_self_le hquot) (Nat.log2_self_le (Nat.ne_of_gt hn))
    _ ≤ m := Nat.div_mul_le_self m n

/-- A quotient has few bits more before the point than what is divided, if the divisor has few bits
after it. -/
theorem rounds_div (s : UnpackedFloat.Sign) {m n : Nat} {e f c : Int} (hm : 0 < m) (hn : 0 < n)
    (h : Fits spec m e) (hc : 0 ≤ c) (hf : -c ≤ f) :
    let d := divCore spec m e n f
    ∃ t ≤ e + c, Rounds spec t (roundWithAccuracy spec s d.1 d.2.1 d.2.2) := by
  intro d
  obtain ⟨u, hu⟩ : ∃ u, d.2.1 = u := ⟨_, rfl⟩
  have hmin : u ≤ e - f := hu ▸ min_le_left _ _
  have htarget : u ≤ spec.targetExponent (totalExponent m e - totalExponent n f) :=
    hu ▸ min_le_right _ _
  obtain ⟨k, hk⟩ := Int.le.dest hmin
  have hquot : d.1 = (m <<< k) / n := by
    change (m <<< (e - f - d.2.1).toNat) / n = _
    rw [hu, show (e - f - u).toNat = k by omega]
  have hlow := log2_le_log2_div (m <<< k) hn
  -- the quotient is shorter than the dividend by about the bits of the divisor
  have hhigh : d.1.log2 + n.log2 ≤ m.log2 + k ∨ d.1.log2 = 0 := by
    obtain hlt | hle := Nat.lt_or_ge (m <<< k) n
    · right
      rw [hquot, Nat.div_eq_of_lt hlt, Nat.log2_zero]
    · left
      rw [hquot, ← log2_shiftLeft hm]
      exact log2_div_add_log2_le hn hle
  rw [← hquot, log2_shiftLeft hm] at hlow
  obtain ⟨⟨hbits, hleast⟩, _⟩ := (fits_iff hm).mp h
  rw [← Nat.log2_lt (Nat.ne_of_gt hm)] at hbits
  rw [← hu] at hk htarget
  unfold totalExponent Format.targetExponent at htarget
  refine ⟨_, ?_, rounds_roundWithAccuracy s d.2.2 rfl ?_⟩ <;>
    · unfold totalExponent Format.targetExponent
      omega

/-! ## Operations on floats -/

theorem isNaN_unpack_packComponents (s : UnpackedFloat.Sign) {x : BitVec spec.exponentBits}
    (hx : x ≠ -1#_) (v : BitVec spec.mantissaBitsWithoutImplicit) :
    (UnpackedFloat.unpack spec (packComponents spec s x v)).isNaN = false := by
  simp only [UnpackedFloat.unpack, unpackExponent_packComponents, if_neg hx]
  split
  · split <;> rfl
  · rfl

theorem isNaN_unpack_packedInfinity (s : UnpackedFloat.Sign) :
    (UnpackedFloat.unpack spec (packedInfinity spec s)).isNaN = false := by
  simp only [packedInfinity, UnpackedFloat.unpack, unpackExponent_packComponents,
    unpackMantissa_packComponents, if_true]
  rfl

theorem isNaN_unpack_pack (hbias : 0 < spec.exponentBias) {u : UnpackedFloat}
    (hu : u.isNaN = false) :
    (UnpackedFloat.unpack spec (UnpackedFloat.pack spec u)).isNaN = false := by
  cases u with
  | notANumber => cases hu
  | infinity s => exact isNaN_unpack_packedInfinity s
  | zero s => exact isNaN_unpack_packComponents s (zero_ne_neg_one hbias) 0
  | finite s m e hm =>
    rw [UnpackedFloat.pack]
    split
    · exact isNaN_unpack_packedInfinity s
    · rename_i hrange
      rw [Nat.not_le] at hrange
      split
      · refine isNaN_unpack_packComponents s ?_ _
        rw [ne_neg_one_iff, BitVec.toNat_ofNat, Nat.mod_eq_of_lt (Nat.lt_of_succ_lt hrange)]
        exact hrange
      · exact isNaN_unpack_packComponents s (zero_ne_neg_one hbias) _

theorem isFinite_of_isNaN_eq_false {u : UnpackedFloat} (hn : u.isNaN = false)
    (hi : u.isInf = false) : u.isFinite = true := by
  cases u with
  | zero | finite => rfl
  | infinity => cases hi
  | notANumber => cases hn

theorem isNaN_roundWithAccuracy (s : UnpackedFloat.Sign) (m : Nat) (e : Int) (acc : Accuracy) :
    (roundWithAccuracy spec s m e acc).isNaN = false := by
  unfold roundWithAccuracy
  dsimp only
  split <;> rfl

theorem isNaN_mul {u v : UnpackedFloat} (hu : u.isFinite = true) (hv : v.isFinite = true) :
    (UnpackedFloat.mul spec u v).isNaN = false := by
  cases u with
  | infinity | notANumber => cases hu
  | zero | finite =>
    cases v with
    | infinity | notANumber => cases hv
    | zero | finite => first | rfl | exact isNaN_roundWithAccuracy _ _ _ _

theorem ofModel_pack (u : UnpackedFloat) : Float.ofModel (.pack u) = BinaryFloat.pack u :=
  toBits_injective64 (toBits_pack64 u).symm

end Packing

open Packing

namespace BinaryFloat

def IsBelow {φ : Type} [BinaryFloat φ] (k : Int) (x : φ) : Prop := Packing.IsBelow k (unpack x)

variable {φ : Type} [BinaryFloat φ] [LawfulFloat φ] {x y : Float} {k t : Int}

theorem isBelow_pack {u : UnpackedFloat} (hu : Rounds (format φ) t u)
    (ht : t < maxExponent (format φ)) : IsBelow (t + 1) (pack u : φ) := by
  rw [IsBelow, LawfulFloat.unpack_pack (hu.isCanonical ht)]
  exact hu.isBelow

theorem neg_eq (x : Float) : -x = pack (unpack x).neg := ofModel_pack _

theorem mul_eq (x y : Float) : x * y = pack (.mul .binary64 (unpack x) (unpack y)) := ofModel_pack _

theorem div_eq (x y : Float) : x / y = pack (.div .binary64 (unpack x) (unpack y)) := ofModel_pack _

theorem unpack_pack_zero (s : UnpackedFloat.Sign) : unpack (pack (.zero s) : φ) = .zero s :=
  LawfulFloat.unpack_pack (u := .zero s) trivial

theorem isFinite_mul (hx : IsFinite x) (hy : IsFinite y) (h : (x * y).isInf = false) :
    IsFinite (x * y) := by
  refine isFinite_of_isNaN_eq_false ?_ h
  rw [mul_eq]
  change (UnpackedFloat.unpack .binary64 (BinaryFloat.pack _ : Float).toBits.toBitVec).isNaN = false
  rw [toBits_pack64]
  exact isNaN_unpack_pack (by decide) (isNaN_mul hx hy)

theorem isBelow_div (hx : IsBelow k x) (hy : isCoarse (unpack y) = true) (hk : k + 53 ≤ 971) :
    IsBelow (k + 53) (x / y) := by
  rw [div_eq]
  cases hv : unpack y with
  | infinity | notANumber | zero =>
    rw [hv] at hy
    cases hy
  | finite s m e hm =>
    rw [hv] at hy
    cases hu : unpack x with
    | infinity | notANumber =>
      rw [IsBelow, hu] at hx
      cases hx
    | zero s' =>
      rw [UnpackedFloat.div, IsBelow, unpack_pack_zero]
      trivial
    | finite s' n f hn =>
      have hfits := LawfulFloat.isCanonical x
      rw [hu] at hfits
      rw [IsBelow, hu] at hx
      change f ≤ k at hx
      obtain ⟨t, ht, hrounds⟩ :=
        rounds_div (s' / s) hn hm hfits.1 (c := 52) (by omega) (of_decide_eq_true hy)
      exact (isBelow_pack hrounds (by change t < 971; omega)).mono (by omega)

end BinaryFloat

namespace Numeral

open BinaryFloat

theorem rounds_ofScientific {m : Nat} (hm : 0 < m) {n : Nat} (hn : n ≤ 2 ^ 11) :
    Rounds .binary64 (Format.binary64.targetExponent (totalExponent (m * 10 ^ n) 0))
      (UnpackedFloat.ofScientific .binary64 m n) := by
  have hpos : 0 < m * 10 ^ n := Nat.mul_pos hm (Nat.pow_pos (by decide))
  have hsame : (m <<< 53) * 10 ^ n = (m * 10 ^ n) <<< 53 := by
    rw [Nat.shiftLeft_eq, Nat.shiftLeft_eq, Nat.mul_right_comm]
  have htotal : totalExponent ((m <<< 53) * 10 ^ n) (-53) = totalExponent (m * 10 ^ n) 0 := by
    rw [hsame]
    exact totalExponent_shiftLeft hpos rfl
  have hlow : -53 ≤ Format.binary64.targetExponent (totalExponent (m * 10 ^ n) 0) := by
    rw [targetExponent_binary64, totalExponent]
    omega
  have hrounds := rounds_roundWithAccuracy .positive .exact (congrArg _ htotal) hlow
  have hbits : (2 : Int) ^ Format.binary64.exponentBits = 2048 := rfl
  rw [UnpackedFloat.ofScientific, dif_neg (Nat.ne_of_gt hm), if_neg (by omega), if_neg (by omega),
    if_pos (by omega)]
  exact hrounds

theorem log2_lt {n k : Nat} (h : n < 2 ^ k) (hk : 0 < k) : n.log2 < k := by
  obtain rfl | hn := Nat.eq_zero_or_pos n
  · rwa [Nat.log2_zero]
  · exact (Nat.log2_lt (Nat.ne_of_gt hn)).mpr h

theorem isBelow_nearest (s : UnpackedFloat.Sign) {n : Nat} (hn : n < 2 ^ 64) :
    IsBelow 12 (nearest s n 0 : Float) := by
  obtain rfl | hpos := Nat.eq_zero_or_pos n
  · rw [nearest, if_pos rfl, BinaryFloat.IsBelow, unpack_pack_zero]
    trivial
  · have hlog := log2_lt hn (by decide)
    have htarget : Format.binary64.targetExponent (totalExponent n 0) ≤ 11 := by
      rw [targetExponent_binary64, totalExponent]
      omega
    have hrounds := @rounds_round .binary64 s _ hpos 0 _ rfl
    rw [nearest_of_pos s hpos]
    exact (isBelow_pack hrounds (by change _ < (971 : Int); omega)).mono (by omega)

theorem toFloat_eq (n : UInt64) : n.toFloat = nearest .positive n.toNat 0 := by
  change Float.ofModel (.pack (UnpackedFloat.normalize .binary64 n.toNat 0 .positive)) = _
  rw [ofModel_pack, nearest]
  congr 1
  obtain hn | hn := Nat.eq_zero_or_pos n.toNat
  · rw [hn]
    rfl
  · have hcompare : compare (n.toNat : Int) 0 = .gt := by
      rw [compare_gt_iff_gt]
      omega
    rw [UnpackedFloat.normalize, hcompare, if_neg (Nat.ne_of_gt hn)]
    rfl

theorem mul_one_eq {x : Float} (hx : IsFinite x) : x * Float.ofBits 0x3FF0000000000000 = x := by
  have hone : unpack (Float.ofBits 0x3FF0000000000000) =
      .finite .positive (2 ^ 52) (-52) (by decide) := by rfl
  rw [mul_eq, hone]
  refine pack_of_unpack ?_
  cases hu : unpack x with
  | infinity | notANumber =>
    rw [IsFinite, hu] at hx
    cases hx
  | zero s => cases s <;> rfl
  | finite s m e hm =>
    have hfits := LawfulFloat.isCanonical x
    rw [hu] at hfits
    have hsame : m * 2 ^ 52 = m <<< 52 := (Nat.shiftLeft_eq m 52).symm
    have hsign : s * .positive = s := by cases s <;> rfl
    rw [UnpackedFloat.mul, hsame, hsign]
    exact (roundWithAccuracy_of_fits hm s hfits.1 (by omega)).symm

theorem isBelow_ofNat {n : Nat} (hn : n < 2 ^ 64) : IsBelow 12 (Float.ofNat n) := by
  change IsBelow 12 (Float.ofScientific n false 0)
  rw [Float.ofScientific]
  split
  · change IsBelow 12 (n.toUInt64.toFloat * Float.ofBits 0x3FF0000000000000)
    have hnearest := isBelow_nearest .positive n.toUInt64.toNat_lt
    rw [← toFloat_eq] at hnearest
    rwa [mul_one_eq hnearest.isFinite]
  · rename_i hlarge
    have hlog := log2_lt hn (by decide)
    have hrounds := rounds_ofScientific (m := n) (n := 0) (by omega) (by omega)
    rw [Nat.pow_zero, Nat.mul_one] at hrounds
    have htarget : Format.binary64.targetExponent (totalExponent n 0) ≤ 11 := by
      rw [targetExponent_binary64, totalExponent]
      omega
    change IsBelow 12 (Float.ofModel (.pack _))
    rw [ofModel_pack]
    exact (isBelow_pack hrounds (by change _ < (971 : Int); omega)).mono (by omega)

theorem powerOfTen_eq {n : Nat} (hn : 22 < n) :
    powerOfTen n = BinaryFloat.pack (UnpackedFloat.ofScientific .binary64 1 n) := by
  rw [powerOfTen, Float.ofScientific, dif_neg fun h => Nat.not_le.mpr hn h.2, ← ofModel_pack]
  rfl

theorem isCoarse_large {n : Nat} (hlarge : 22 < n) (hn : n ≤ 307) :
    isCoarse (unpack (powerOfTen n)) = true := by
  -- the power is at least one and does not overflow, so its last bit is worth 2⁻⁵² or more
  have htop : 10 ^ 307 < 2 ^ 1020 := by decide +kernel
  have hle : 10 ^ n ≤ 10 ^ 307 := by
    apply Nat.pow_le_pow_right (by decide)
    exact hn
  have hlog : (10 ^ n).log2 < 1020 := log2_lt (Nat.lt_of_le_of_lt hle htop) (by decide)
  have hrounds := rounds_ofScientific Nat.one_pos (n := n) (hn.trans (by decide))
  obtain ⟨t, ht⟩ : ∃ t, Format.binary64.targetExponent (totalExponent (10 ^ n) 0) = t := ⟨_, rfl⟩
  rw [Nat.one_mul, ht] at hrounds
  rw [targetExponent_binary64, totalExponent] at ht
  have hlow : -52 ≤ t := by omega
  have hmax : t < maxExponent .binary64 := by
    change t < 971
    omega
  have hmin : t ≠ Format.minExponent .binary64 := by
    change t ≠ -1074
    omega
  have hsame : unpack (powerOfTen n) = UnpackedFloat.ofScientific .binary64 1 n := by
    rw [powerOfTen_eq hlarge]
    exact LawfulFloat.unpack_pack (hrounds.isCanonical hmax)
  rw [hsame]
  exact hrounds.isCoarse hlow hmin

theorem isCoarse_powerOfTen {n : Nat} (hn : n ≤ 308) :
    isCoarse (unpack (powerOfTen n)) = true := by
  obtain hsmall | hlarge := Nat.lt_or_ge n 23
  · have htable : ∀ k : Fin 23, isCoarse (unpack (powerOfTen k)) = true := by decide +kernel
    exact htable ⟨n, hsmall⟩
  obtain hle | hlt := Nat.lt_or_ge n 308
  · exact isCoarse_large hlarge (Nat.le_of_lt_succ hle)
  · have htop : isCoarse (unpack (powerOfTen 308)) = true := by decide +kernel
    rwa [Nat.le_antisymm hn hlt]

theorem isFinite_scaleDown (fuel : Nat) {x : Float} {k : Int} (hx : IsBelow k x)
    (hk : k + 53 * fuel ≤ 971) (e : Int) : IsFinite (scaleDown fuel x e) := by
  induction fuel generalizing x k e with
  | zero =>
    change (unpack (0 : Float)).isFinite = true
    decide +kernel
  | succ fuel ih =>
    push_cast at hk
    rw [scaleDown]
    split
    · exact (isBelow_div hx (isCoarse_powerOfTen (by omega)) (by omega)).isFinite
    split
    · exact hx.isFinite
    · exact ih (isBelow_div hx (isCoarse_powerOfTen le_rfl) (by omega)) (by omega) _

theorem isFinite_scale? {n : Nat} (hn : n < 2 ^ 64) {e : Int} {x : Float}
    (h : scale? n e = some x) : IsFinite x := by
  have hbelow := isBelow_ofNat hn
  unfold scale? at h
  dsimp only at h
  split at h
  · cases h
    exact isFinite_scaleDown 4 hbelow (by decide) e
  split at h
  · split at h <;> cases h
    exact hbelow.isFinite
  split at h
  · cases h
  · cases h
    rename_i hinf
    have hpower : IsFinite (powerOfTen e.toNat) :=
      isFinite_of_isCoarse (isCoarse_powerOfTen (by omega))
    exact isFinite_mul hbelow.isFinite hpower (Bool.eq_false_iff.mpr hinf)

theorem fst_gather_lt (digits : List Nat) {n : Nat} (hn : n < 2 ^ 64) :
    (gather n digits).1 < 2 ^ 64 := by
  induction digits generalizing n with
  | nil => exact hn
  | cons d ds ih =>
    rw [gather]
    split
    · rename_i h
      exact ih h
    · exact hn

end Numeral

/-! ## Numbers -/

/-- Integers fit 64 bits, and every other number is finite. -/
def JsonNumber.IsSound : JsonNumber → Prop
  | natural n => n < 2 ^ 64
  | negative n => n ≤ 2 ^ 63
  | float x => BinaryFloat.IsFinite x

namespace Numeral

open BinaryFloat

theorem isFinite_neg {x : Float} (hx : IsFinite x) : IsFinite (-x) := by
  rw [IsFinite, neg_eq, LawfulFloat.unpack_pack (isCanonical_neg (LawfulFloat.isCanonical x))]
  cases hu : unpack x with
  | zero | finite => rfl
  | infinity | notANumber =>
    rw [IsFinite, hu] at hx
    cases hx

theorem isFinite_sign {s : Numeral} {x : Float} (hx : IsFinite x) : IsFinite (s.sign x) := by
  rw [sign]
  split
  · exact isFinite_neg hx
  · exact hx

/-- **Numerals are read as sound numbers.** -/
theorem isSound_value? {s : Numeral} {n : JsonNumber} (h : s.value? = some n) : n.IsSound := by
  have hwhole := fst_gather_lt s.whole (n := 0) (by decide)
  -- an exponent or a point makes a float, which is refused when it is not finite
  have hfloat : ∀ {m e}, m < 2 ^ 64 →
      (scale? m e).map (fun x => JsonNumber.float (s.sign x)) = some n → n.IsSound := by
    intro m e hm hn
    obtain ⟨x, hx, rfl⟩ := Option.map_eq_some_iff.mp hn
    exact isFinite_sign (isFinite_scale? hm hx)
  unfold value? at h
  dsimp only at h
  split at h
  · split at h
    · split at h
      · cases h
        exact hwhole
      split at h
      · cases h
        exact isFinite_neg (isBelow_ofNat hwhole).isFinite
      · cases h
        rename_i hsmall
        rw [Bool.or_eq_true, not_or, decide_eq_true_eq, decide_eq_true_eq] at hsmall
        exact Nat.not_lt.mp hsmall.2
    · exact hfloat hwhole h
  · exact hfloat (fst_gather_lt _ hwhole) h

end Numeral

end Artboard
