import Artboard.Normal.Source
import Artboard.Layout.Inference
import Artboard.Scene.Arena

/-!
# From sources to scenes

A scene is a tree of elements, each with the number of its slot. Nodes that leave nothing behind
are dropped, empty containers become rectangles, empty groups vanish, a group with one child gives
way to it, and a child found to lie behind its siblings becomes their container. Slots that a
step leaves behind are kept in a ledger, so that numbers can be told to the last.
-/

namespace Artboard

inductive Scene (α : Type)
  | node (slot : Nat) (element : Element α) (children : List (Scene α))

/-- The next free slot number, and the slots no longer in use as they were left. -/
structure Ledger (α : Type) where
  next : Nat
  abandoned : List (Nat × Slot α)

abbrev Build (α : Type) := StateM (Ledger α)

structure NormalizeOptions (α : Type) where
  tolerances : Tolerances α
  infer : Bool

namespace NormalizeOptions

variable {α : Type}

instance [Scalar α] : Inhabited (NormalizeOptions α) := ⟨default, true⟩

end NormalizeOptions

namespace Build

variable {α : Type}

def allocate : Build α Nat := fun l => (l.next, { l with next := l.next + 1 })

def abandon (slot : Nat) (content : Slot α) : Build α Unit :=
  fun l => ((), { l with abandoned := (slot, content) :: l.abandoned })

end Build

namespace Scene

variable {α : Type}

def slot : Scene α → Nat
  | node s _ _ => s

def element : Scene α → Element α
  | node _ e _ => e

def children : Scene α → List (Scene α)
  | node _ _ cs => cs

def mapElement (f : Element α → Element α) : Scene α → Scene α
  | node s e cs => node s (f e) cs

variable [Scalar α]

def shift (s : Scene α) (dx dy : α) : Scene α := s.mapElement fun e => e.shift dx dy

/-- Rectangles, and containers that hold nothing, may come to hold their siblings. -/
def isPromotable (s : Scene α) : Bool :=
  match s.element.kind with
  | .rectangle => true
  | .container _ => s.children.isEmpty
  | _ => false

def item (s : Scene α) : Item α := ⟨s.element.props.bounds, s.isPromotable⟩

end Scene

namespace Element

variable {α : Type} [Scalar α]

/-- A container that fills its flow parent on an axis does not hug on it. -/
def settleAxis (parentFlow : Flow) (axis : Axis) (e : Element α) : Element α :=
  match e.kind with
  | .container l =>
    if e.claimsFill parentFlow axis && l.sizing axis = .hug then
      { e with kind := .container (l.setSizing .fixed axis) }
    else e
  | _ => e

def settle (parentFlow : Flow) (e : Element α) : Element α :=
  (e.settleAxis parentFlow .horizontal).settleAxis parentFlow .vertical

end Element

namespace Scene

variable {α : Type} [Scalar α]

def settled (slot : Nat) (e : Element α) (children : List (Scene α)) : Scene α :=
  node slot e (children.map (mapElement (Element.settle e.flow)))

def promotedElement (background : Element α) (i : Inference α) : Element α where
  kind := .container
    { flow := i.flow, origin := .inferred, horizontalSizing := .fixed, verticalSizing := .fixed,
      padding := i.padding, itemSpacing := i.spacing, distribution := .start,
      alignment := i.alignment, clips := false }
  props := background.props

def inOrder (children : List (Scene α)) (order : List Nat) : List (Scene α) :=
  order.filterMap fun k => children[k]?

/-- The background as container of its siblings, which are moved into its space. -/
def promote (parent : Nat) (children : List (Scene α)) (i : Inference α) (background : Scene α) :
    Build α (Scene α) := do
  let e := background.element
  Build.abandon background.slot ⟨e, some parent, []⟩
  -- the element goes over to a new slot, the old one stays in the arena
  let slot ← Build.allocate
  let g := e.props.geometry
  return settled slot (promotedElement e i)
    ((inOrder children i.order).map fun s => s.shift (-g.x) (-g.y))

def inference (o : NormalizeOptions α) (children : List (Scene α)) : Inference α :=
  Inference.ofItems o.tolerances (children.map item)

def background? (children : List (Scene α)) (i : Inference α) : Option (Scene α) := do
  let k ← i.promoted
  children[k]?

def inferContainer (o : NormalizeOptions α) (slot : Nat) (e : Element α)
    (l : ContainerLayout α) (children : List (Scene α)) : Build α (Scene α) := do
  let i := inference o children
  match background? children i with
  | some b =>
    -- all other children lie in front of the background, and go below it
    let p ← promote slot children i b
    return settled slot { e with kind := .container { l with origin := .inferred } } [p]
  | none =>
    if i.flow.isFlow then
      let layout := { l with
        flow := i.flow, origin := .inferred, itemSpacing := i.spacing, alignment := i.alignment }
      return settled slot { e with kind := .container layout } (inOrder children i.order)
    else return settled slot e children

def ofContainer (o : NormalizeOptions α) (declared : Bool) (slot : Nat) (e : Element α)
    (children : List (Scene α)) : Build α (Scene α) :=
  if children.isEmpty then pure (node slot { e with kind := .rectangle } [])
  else
    match e.kind, !declared && o.infer with
    | .container l, true => inferContainer o slot e l children
    | _, _ => pure (settled slot e children)

def unwrap (parent : Option Nat) (slot : Nat) (e : Element α) (listed : List Nat)
    (child : Scene α) : Build α (Option (Scene α)) := do
  Build.abandon slot ⟨e, parent, listed⟩
  return some (child.shift e.props.geometry.x e.props.geometry.y)

def ofGroup (o : NormalizeOptions α) (parent : Option Nat) (slot : Nat) (e : Element α) :
    List (Scene α) → Build α (Option (Scene α))
  | [] => do
    Build.abandon slot ⟨e, parent, []⟩
    return none
  | [only] => unwrap parent slot e [] only
  | children =>
    let i := inference o children
    match o.infer, background? children i with
    | true, some b => do
      -- with the others below it, the background is the only child of the group
      let p ← promote slot children i b
      unwrap parent slot e [p.slot] p
    | _, _ => return some (node slot e children)

end Scene

namespace Source

variable {α : Type} [Scalar α] [Circular α]

mutual

def build (o : NormalizeOptions α) (parent : Option Nat) : Source α → Build α (Option (Scene α))
  | node d children =>
    match d.isKept, d.snapshot with
    | true, some e => do
      let slot ← Build.allocate
      match d.kind with
      | .container =>
        let kids ← buildAll o (some slot) children
        let s ← Scene.ofContainer o d.declared.isSome slot e kids
        return some s
      | .group =>
        let kids ← buildAll o (some slot) children
        Scene.ofGroup o parent slot e kids
      | _ => return some (.node slot e [])
    | _, _ => return none

def buildAll (o : NormalizeOptions α) (parent : Option Nat) :
    List (Source α) → Build α (List (Scene α))
  | [] => return []
  | s :: rest => do
    let first ← build o parent s
    let others ← buildAll o parent rest
    return first.toList ++ others

end

end Source

end Artboard
