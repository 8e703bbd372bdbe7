import Artboard.Number.Binary

/-!
# Decimal text of a float

`shortest` finds the fewest digits that read back as the same float, and of those the nearest; of
two that are equally near it takes the one a tie is said to go to.
`Decimal.text` writes them positionally, never with an exponent.
-/

open Float.Model UnpackedFloat

namespace Artboard

namespace Decimal

def digits (n : Nat) : List Char := Nat.toDigits 10 n

/-- The power of ten just above `a / b`: `10 ^ (p - 1) ≤ a / b < 10 ^ p`. -/
def magnitude (a b : Nat) : Int :=
  if b ≤ a then (digits (a / b)).length else 1 - ((digits ((b + a - 1) / a - 1)).length : Int)

def compareScaled (n : Nat) (p : Int) (x : Nat) (q : Int) : Ordering :=
  compare (n * tenTo p.toNat * twoTo (-q).toNat) (x * twoTo q.toNat * tenTo (-p).toNat)

inductive Tie
  | up
  | even
  deriving DecidableEq

def Tie.goesDown : Tie → Nat → Bool
  | up, _ => false
  | even, below => below % 2 = 0

/-- The reals that round to a float, as multiples of `2 ^ unit`. -/
structure Interval where
  low : Nat
  mid : Nat
  high : Nat
  unit : Int
  closed : Bool

namespace Interval

/-- Below a power of two floats lie twice as dense, so the lower half is half as long. -/
def around (format : Format) (m : Nat) (e : Int) : Interval where
  low :=
    if m = twoTo (format.mantissaBits - 1) ∧ format.minExponent < e then 4 * m - 1 else 4 * m - 2
  mid := 4 * m
  high := 4 * m + 2
  unit := e - 2
  closed := m % 2 = 0

variable (i : Interval)

def contains (n : Nat) (p : Int) : Bool :=
  let fromLow := compareScaled n p i.low i.unit
  let fromHigh := compareScaled n p i.high i.unit
  if i.closed then fromLow != .lt && fromHigh != .gt else fromLow == .gt && fromHigh == .lt

def floor (p : Int) : Nat :=
  (i.mid * twoTo i.unit.toNat * tenTo (-p).toNat) / (twoTo (-i.unit).toNat * tenTo p.toNat)

def roundsDown (tie : Tie) (n : Nat) (p : Int) : Bool :=
  match compareScaled (2 * n + 1) p (2 * i.mid) i.unit with
  | .gt => true
  | .eq => tie.goesDown n
  | .lt => false

def hit? (tie : Tie) (p : Int) : Option Nat :=
  let n := i.floor p
  match i.contains n p, i.contains (n + 1) p with
  | true, true => some (if i.roundsDown tie n p then n else n + 1)
  | true, false => some n
  | false, true => some (n + 1)
  | false, false => none

/-- Tries grids of one, two, … digits, finest `10 ^ p` after `fuel` more steps. -/
def search (tie : Tie) : Nat → Int → Nat × Int
  | 0, p => (i.floor p, p)
  | fuel + 1, p =>
    match i.hit? tie p with
    | some n => (n, p)
    | none => search tie fuel (p - 1)

end Interval

/-- The decimal `n · 10 ^ p` with the fewest digits that rounds to `m · 2 ^ e`. Seventeen digits
suffice for every format up to 64 bits. -/
def shortest (tie : Tie) (format : Format) (m : Nat) (e : Int) : Nat × Int :=
  (Interval.around format m e).search tie 17
    (magnitude (m * twoTo e.toNat) (twoTo (-e).toNat) - 1)

def positional (n : Nat) : Int → List Char
  | .ofNat k => digits (n * tenTo k)
  | .negSucc k =>
    let whole := n / tenTo (k + 1)
    let part := n % tenTo (k + 1)
    if part = 0 then digits whole
    else
      let tail := digits part
      let zeros := List.replicate (k + 1 - tail.length) '0'
      digits whole ++ '.' :: ((zeros ++ tail).reverse.dropWhile (· == '0')).reverse

def signed (s : UnpackedFloat.Sign) (cs : List Char) : List Char :=
  if s.apply 1 < 0 then '-' :: cs else cs

/-- The shortest text that reads back, with `NaN` and `inf` for what is no finite number. -/
def text {φ : Type} [BinaryFloat φ] (x : φ) : String :=
  match BinaryFloat.unpack x with
  | .finite s m e _ =>
    let (n, p) := shortest .up (BinaryFloat.format φ) m e
    String.ofList (signed s (positional n p))
  | .zero s => String.ofList (signed s ['0'])
  | .infinity s => String.ofList (signed s "inf".toList)
  | .notANumber => "NaN"

end Decimal

instance : Scalar Float where
  numeral _ := inferInstance
  decideLT := inferInstance
  decideLE := inferInstance
  infinity := Float.ofScientific 1 false 309
  isFinite := Float.isFinite
  totalCompare a b := compare (totalRank a) (totalRank b)
  remainder := BinaryFloat.remainder
  text := Decimal.text

def roundPlaces (places : Nat) (x : Float) : Float :=
  let scale := Float.ofNat (tenTo places)
  BinaryFloat.roundToInteger (x * scale) / scale

end Artboard
