import Artboard.Number.Scalar

/-!
# Binary floating point

Floats taken apart into sign, mantissa and exponent, and put together again. Rounding to an
integer, remainders and the change of width are exact integer arithmetic on the parts.
-/

open Float.Model UnpackedFloat

namespace Artboard

class BinaryFloat (φ : Type) where
  format : Format
  unpack : φ → UnpackedFloat
  pack : UnpackedFloat → φ

instance : BinaryFloat Float where
  format := Format.binary64
  unpack x := UnpackedFloat.unpack Format.binary64 x.toBits.toBitVec
  pack u := Float.ofBits ⟨UnpackedFloat.pack Format.binary64 u⟩

instance : BinaryFloat Float32 where
  format := Format.binary32
  unpack x := UnpackedFloat.unpack Format.binary32 x.toBits.toBitVec
  pack u := Float32.ofBits ⟨UnpackedFloat.pack Format.binary32 u⟩

namespace BinaryFloat

variable {φ ψ : Type} [BinaryFloat φ] [BinaryFloat ψ]

/-- The value nearest to `± mantissa · 2 ^ exponent`. -/
def nearest (s : UnpackedFloat.Sign) (mantissa : Nat) (exponent : Int) : φ :=
  pack (if mantissa = 0 then .zero s else round (format φ) s mantissa exponent)

def convert (x : φ) : ψ :=
  match unpack x with
  | .finite s m e _ => nearest s m e
  | u => pack u

/-- The nearest integer, halves going away from zero. -/
def roundToInteger (x : φ) : φ :=
  match unpack x with
  | .finite s m (.negSucc k) _ => nearest s ((m + twoTo k) / twoTo (k + 1)) 0
  | _ => x

def truncate? (x : φ) : Option Int :=
  match unpack x with
  | .finite s m (.ofNat k) _ => some (s.apply (m * twoTo k))
  | .finite s m (.negSucc k) _ => some (s.apply (m / twoTo (k + 1)))
  | .zero _ => some 0
  | _ => none

def remainder (x y : φ) : φ :=
  match unpack x, unpack y with
  | .finite s m e _, .finite _ n f _ =>
    let low := min e f
    nearest s ((m * twoTo (e - low).toNat) % (n * twoTo (f - low).toNat)) low
  | .zero _, .finite .. | .zero _, .infinity _ | .finite .., .infinity _ => x
  | _, _ => pack .notANumber

end BinaryFloat

/-- The place of a float in the total order of its bits: negative values first, `-0` before `0`,
no number last. -/
def totalRank (x : Float) : Int :=
  let bits := x.toBits.toNat
  if bits < twoTo 63 then bits else (twoTo 63 : Int) - bits - 1

end Artboard
