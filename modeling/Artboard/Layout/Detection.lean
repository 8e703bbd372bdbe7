import Artboard.Layout.Flow

/-!
# Telling rows and columns

Boxes sorted along an axis form a row or a column when no gap between neighbours falls below the
tolerated overlap on that axis, and some gap does on the other.
-/

namespace Artboard

/-- A flow, the boxes' indices in flow order, and the gap between neighbours. -/
structure Detection (α : Type) where
  flow : Flow
  order : List Nat
  spacing : α
  deriving BEq

abbrev Placed (α : Type) := Nat × Box α

namespace Detection

variable {α : Type} [Scalar α]

/-- Earlier along the axis, ties by the other axis. -/
def precedes (axis : Axis) (b c : Box α) : Bool :=
  ((Scalar.totalCompare (b.start axis) (c.start axis)).then
    (Scalar.totalCompare (b.start axis.cross) (c.start axis.cross))) != .gt

def sortAlong (axis : Axis) (l : List (Placed α)) : List (Placed α) :=
  l.mergeSort fun p q => precedes axis p.2 q.2

def gaps (axis : Axis) : List (Placed α) → List α
  | p :: q :: rest => (q.2.start axis - p.2.stop axis) :: gaps axis (q :: rest)
  | _ => []

def meanGap (l : List α) : α :=
  if l.isEmpty then 0 else Scalar.greatest (Scalar.sum l / OfNat.ofNat l.length) 0

def advances (tolerance : α) (axis : Axis) (sorted : List (Placed α)) : Bool :=
  (gaps axis sorted).all fun g => -tolerance ≤ g

def free (l : List (Placed α)) : Detection α := ⟨.free, l.map (·.1), 0⟩

def along (flow : Flow) (axis : Axis) (sorted : List (Placed α)) : Detection α :=
  ⟨flow, sorted.map (·.1), meanGap (gaps axis sorted)⟩

def ofPlaced (t : Tolerances α) (l : List (Placed α)) : Detection α :=
  if l.length < 2 then free l
  else
    let down := sortAlong .vertical l
    let across := sortAlong .horizontal l
    match advances t.gap .horizontal across, advances t.gap .vertical down with
    | false, true => along .column .vertical down
    | true, false => along .row .horizontal across
    | _, _ => free l

def place (boxes : List (Box α)) : List (Placed α) := boxes.zipIdx.map fun p => (p.2, p.1)

def ofBoxes (t : Tolerances α) (boxes : List (Box α)) : Detection α := ofPlaced t (place boxes)

end Detection

end Artboard
