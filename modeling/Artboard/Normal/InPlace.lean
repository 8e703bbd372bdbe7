import Artboard.Normal.Normalize

/-!
# Normalizing in place

The same run on one arena that grows: what a node becomes is put into a slot, and every rewrite
finds slots by number and changes what they hold. A number that names no slot ends the run, as a
missing id does, and so does a position at which no child stands.
-/

namespace Artboard

inductive Failure (α : Type)
  | missing (error : MissingId α)
  | unknown (error : UnknownNode)
  | outOfRange (position : Nat)

structure Progress (α : Type) where
  arena : Arena α
  context : Context

abbrev Run (α : Type) := ExceptT (Failure α) (StateM (Progress α))

namespace Slot

variable {α : Type}

def mapElement (f : Element α → Element α) (s : Slot α) : Slot α := { s with element := f s.element }

def mapLayout (f : ContainerLayout α → ContainerLayout α) (s : Slot α) : Slot α :=
  match s.element.kind with
  | .container l => s.mapElement fun e => { e with kind := .container (f l) }
  | _ => s

def isPromotable (s : Slot α) : Bool :=
  match s.element.kind with
  | .rectangle => true
  | .container _ => s.children.isEmpty
  | _ => false

def item (s : Slot α) : Item α := ⟨s.element.props.bounds, s.isPromotable⟩

end Slot

namespace Arena

variable {α : Type} (a : Arena α)

def store (s : Slot α) : Arena α := { a with slots := a.slots.push s }

end Arena

namespace Run

variable {α : Type}

/-! ## One slot, one child -/

def record (events : List (Event α)) : Run α Unit := fun p =>
  let (outcome, context) := p.context.gather events
  (outcome.mapError .missing, { p with context })

def node (i : Nat) : Run α (Slot α) := fun p => ((p.arena.get i).mapError .unknown, p)

def store (s : Slot α) : Run α Nat := fun p =>
  (.ok p.arena.size, { p with arena := p.arena.store s })

def change (i : Nat) (f : Slot α → Slot α) : Run α Unit := do
  let _ ← node i
  modify fun p => { p with arena := p.arena.modify i f }

def attach (parent child : Nat) : Run α Unit := fun p =>
  match p.arena.attach parent child with
  | .ok a => (.ok (), { p with arena := a })
  | .error e => (.error (.unknown e), p)

def pick (children : List Nat) (k : Nat) : Run α Nat :=
  match children[k]? with
  | some c => pure c
  | none => throw (.outOfRange k)

def pickAll (children : List Nat) : List Nat → Run α (List Nat)
  | [] => return []
  | k :: order => do
    let first ← pick children k
    let others ← pickAll children order
    return first :: others

variable [Scalar α] (o : NormalizeOptions α)

/-! ## Rewrites -/

def items : List Nat → Run α (List (Item α))
  | [] => return []
  | i :: is => do
    let s ← node i
    let others ← items is
    return s.item :: others

def infer (i : Nat) : Run α (Inference α) := do
  let s ← node i
  return Inference.ofItems o.tolerances (← items s.children)

def settleEach (flow : Flow) : List Nat → Run α Unit
  | [] => return
  | i :: is => do
    change i fun s => s.mapElement (Element.settle flow)
    settleEach flow is

def settle (i : Nat) : Run α Unit := do
  let s ← node i
  if s.element.flow.isFlow then settleEach s.element.flow s.children else return

def hang (parent child : Nat) (dx dy : α) : Run α Unit := do
  change child fun s => s.mapElement fun e => e.shift dx dy
  attach parent child

def adopt (promoted : Nat) (dx dy : α) (children : List Nat) : List Nat → Run α Unit
  | [] => return
  | k :: order => do
    let child ← pick children k
    hang promoted child dx dy
    adopt promoted dx dy children order

/-- Puts an element into a slot of its own, and the children at the positions below it. -/
def enclose (parent : Nat) (e : Element α) (children order : List Nat) : Run α Nat := do
  let i ← store ⟨e, some parent, []⟩
  adopt i (-e.props.geometry.x) (-e.props.geometry.y) children order
  settle i
  return i

def promote (parent : Nat) (children : List Nat) (i : Inference α) : Run α Nat := do
  match i.promoted.bind (children[·]?) with
  | none => throw (.unknown ⟨parent⟩)
  | some background => do
    let s ← node background
    let promoted ← enclose parent (Scene.promotedElement s.element i) children i.order
    change parent fun t => { t with children := [promoted] }
    return promoted

def inferLayout (i : Nat) : Run α Unit := do
  let inferred ← infer o i
  let s ← node i
  if inferred.promoted.isSome then
    let _ ← promote i s.children inferred
    change i fun t => t.mapLayout fun l => { l with origin := .inferred }
  else if inferred.flow.isFlow then
    let order ← pickAll s.children inferred.order
    change i fun t =>
      { t.mapLayout fun l =>
          { l with flow := inferred.flow, origin := .inferred, itemSpacing := inferred.spacing,
                   alignment := inferred.alignment } with
        children := order }
  else return

def inferUndeclared (declared : Bool) (i : Nat) : Run α Unit :=
  if !declared && o.infer then inferLayout o i else return

def finishContainer (declared : Bool) (parent : Option Nat) (i : Nat) (children : List Nat) :
    Run α Nat := do
  if children.isEmpty then
    let s ← node i
    change i fun _ => ⟨{ s.element with kind := .rectangle }, parent, []⟩
    return i
  else
    change i fun t => { t with children := children }
    inferUndeclared o declared i
    settle i
    return i

def unwrap (group child : Nat) (parent : Option Nat) : Run α Nat := do
  let s ← node group
  let g := s.element.props.geometry
  change child fun t => { t with element := t.element.shift g.x g.y, parent := parent }
  return child

def inferGroup (parent : Option Nat) (i : Nat) : Run α (Option Nat) := do
  if o.infer then
    let inferred ← infer o i
    if inferred.promoted.isSome then
      let s ← node i
      let promoted ← promote i s.children inferred
      let child ← unwrap i promoted parent
      return some child
    else return some i
  else return some i

def finishGroup (parent : Option Nat) (i : Nat) : List Nat → Run α (Option Nat)
  | [] => return none
  | [only] => do
    let child ← unwrap i only parent
    return some child
  | children => do
    change i fun t => { t with children := children }
    inferGroup o parent i

end Run

namespace Source

variable {α : Type} [Scalar α] [Circular α] (o : NormalizeOptions α)

mutual

def visit (parent : Option Nat) : Source α → Run α (Option Nat)
  | node d children => do
    if !d.isKept then
      Run.record d.omissionEvents
      return none
    else if d.lacksId then throw (.missing d.missingId)
    else
      Run.record d.snapshotEvents
      match d.snapshot with
      | none => return none
      | some e => do
        let i ← Run.store ⟨e, parent, []⟩
        match d.kind with
        | .container => do
          let kids ← visitAll (some i) children
          let i ← Run.finishContainer o d.declared.isSome parent i kids
          return some i
        | .group => do
          let kids ← visitAll (some i) children
          Run.finishGroup o parent i kids
        | _ => return some i

def visitAll (parent : Option Nat) : List (Source α) → Run α (List Nat)
  | [] => return []
  | s :: rest => do
    let first ← visit parent s
    let others ← visitAll parent rest
    return first.toList ++ others

end

end Source

section
variable {α : Type} [Scalar α] [Circular α] (o : NormalizeOptions α)

/-- What is on top becomes a root when all is visited. -/
def normalizeSourcesInPlace (c : Context) (sources : List (Source α)) :
    Except (Failure α) (Arena α) × Context :=
  let (outcome, p) := Source.visitAll o none sources ⟨.empty, c.reset⟩
  (outcome.map fun top => top.foldl Arena.addRoot p.arena, p.context)

def normalizeInPlace (c : Context) (selection : List (HostNode α)) :
    Except (Failure α) (Arena α) × Context :=
  normalizeSourcesInPlace o c (HostNode.toSources selection)

end

end Artboard
