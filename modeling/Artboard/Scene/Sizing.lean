import Artboard.Scene.Arena

/-!
# Sizing

Whether an element is fixed, hugs its content or fills its parent, for each axis on its own. All
output formats ask here, so that they agree.
-/

namespace Artboard

inductive AxisSizing (α : Type)
  | fixed (length : α)
  | hug
  | fill
  deriving BEq

namespace Element

variable {α : Type} [Scalar α]

/-- Filling a flow parent comes first, then hugging on the element's own flow. -/
def sizing (parentFlow : Option Flow) (e : Element α) (axis : Axis) : AxisSizing α :=
  if (parentFlow.map fun f => claimsFill f e axis).getD false then .fill
  else
    match e.kind.layout? with
    | some l => if l.flow.isFlow && l.sizing axis = .hug then .hug else .fixed (e.length axis)
    | none => .fixed (e.length axis)

end Element

namespace Arena

variable {α : Type} [Scalar α] (a : Arena α)

def parentFlow (parent : Option Nat) : Except UnknownNode (Option Flow) :=
  match parent with
  | none => .ok none
  | some p => (a.get p).map fun s => some s.element.flow

def axisSizing (i : Nat) (axis : Axis) : Except UnknownNode (AxisSizing α) := do
  let s ← a.get i
  let f ← a.parentFlow s.parent
  return s.element.sizing f axis

def sizing (i : Nat) : Except UnknownNode (AxisSizing α × AxisSizing α) := do
  return (← a.axisSizing i .horizontal, ← a.axisSizing i .vertical)

end Arena

end Artboard
