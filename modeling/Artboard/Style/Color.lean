import Artboard.Number.Decimal

/-!
# Colors

Red, green, blue and alpha as single precision numbers, meant to lie in `[0, 1]`.
-/

namespace Artboard

structure Color where
  r : Float32
  g : Float32
  b : Float32
  a : Float32
  deriving BEq

namespace Color

def rgb (r g b : Float32) : Color := ⟨r, g, b, 1⟩

def black : Color := rgb 0 0 0

instance : Inhabited Color := ⟨black⟩

def ofBytes (r g b : UInt8) : Color :=
  let channel (n : UInt8) : Float32 := Float32.ofNat n.toNat / 255
  rgb (channel r) (channel g) (channel b)

/-- A channel out of 255; no number counts as zero. -/
def byte (c : Float32) : Nat :=
  let clamped := if c < 0 then 0 else if 1 < c then 1 else c
  ((BinaryFloat.truncate? (BinaryFloat.roundToInteger (clamped * 255))).getD 0).toNat

def hexDigits (n : Nat) : List Char :=
  [Nat.digitChar (n / 16), Nat.digitChar (n % 16)].map Char.toUpper

def hex (c : Color) : String :=
  String.ofList ('#' :: [c.r, c.g, c.b].flatMap fun x => hexDigits (byte x))

def alpha (c : Color) : Float := BinaryFloat.convert c.a

def withOpacity (c : Color) (opacity : Float) : Color :=
  { c with a := BinaryFloat.convert (Scalar.clamp 0 1 (c.alpha * opacity)) }

end Color

end Artboard
