import Artboard.Json.Value
import Artboard.Number.Scalar

/-!
# Numerals

The number a numeral stands for. Digits are gathered in 64 bits and scaled by one power of ten;
digits that no longer fit only count as places, so long numerals are read approximately.
-/

namespace Artboard

/-- The parts of a numeral; `fraction` and `exponent` are absent where the numeral has none. -/
structure Numeral where
  negative : Bool
  whole : List Nat
  fraction : Option (List Nat)
  exponent : Option (Bool × List Nat)

namespace Numeral

/-- Adds digits as long as 64 bits hold them. Also gives the digits left over. -/
def gather (n : Nat) : List Nat → Nat × List Nat
  | [] => (n, [])
  | d :: ds => if n * 10 + d < twoTo 64 then gather (n * 10 + d) ds else (n, d :: ds)

def ofDigits (digits : List Nat) : Nat := digits.foldl (fun n d => n * 10 + d) 0

def powerOfTen (n : Nat) : Float := Float.ofScientific 1 false n

/-- Divides by `10 ^ 308` until the exponent is in reach. The steps given are enough to bring any
64 bit number to zero. -/
def scaleDown : Nat → Float → Int → Float
  | 0, _, _ => 0
  | fuel + 1, x, e =>
    if -308 ≤ e then x / powerOfTen (-e).toNat
    else if x == 0 then x
    else scaleDown fuel (x / powerOfTen 308) (e + 308)

def scale? (n : Nat) (e : Int) : Option Float :=
  let x := Float.ofNat n
  if e < 0 then some (scaleDown 4 x e)
  else if 308 < e then (if n = 0 then some x else none)
  else
    let y := x * powerOfTen e.toNat
    if y.isInf then none else some y

def sign (s : Numeral) (x : Float) : Float := if s.negative then -x else x

def value? (s : Numeral) : Option JsonNumber :=
  let (n, left) := gather 0 s.whole
  match s.fraction, s.exponent with
  | none, none =>
    if left.isEmpty then
      if !s.negative then some (.natural n)
      else if n = 0 || twoTo 63 < n then some (.float (-Float.ofNat n))
      else some (.negative n)
    else (scale? n left.length).map fun x => .float (s.sign x)
  | fraction, exponent =>
    let digits := fraction.getD []
    let (m, dropped) := gather n digits
    let power : Int := match exponent with
      | none => 0
      | some (true, ds) => -(ofDigits ds : Int)
      | some (false, ds) => ofDigits ds
    (scale? m (left.length - (digits.length - dropped.length) + power)).map fun x =>
      .float (s.sign x)

end Numeral

end Artboard
