import Artboard.Layout.Detection

/-!
# Inferring a layout

What the boxes of a container's children say about the layout their author had in mind: a child
that serves as background of the others, a row or column, an alignment and a padding. The result
is a plausible reading, not the only one.
-/

namespace Artboard

structure Item (α : Type) where
  box : Box α
  promotable : Bool
  deriving BEq, Inhabited

structure Inference (α : Type) where
  promoted : Option Nat
  flow : Flow
  /-- The other children, in flow order, or in paint order where there is no flow. -/
  order : List Nat
  spacing : α
  alignment : Alignment
  padding : Padding α
  deriving BEq

namespace Inference

variable {α : Type} [Scalar α]

/-- The place of the first greatest key. A key is passed over when it is at most the best so
far. -/
def firstMax (key : Item α → α) : List (Item α) → Option Nat
  | [] => none
  | a :: rest => some (go rest 1 0 (key a))
where
  go : List (Item α) → Nat → Nat → α → Nat
  | [], _, best, _ => best
  | a :: rest, i, best, value =>
    if key a ≤ value then go rest (i + 1) best value else go rest (i + 1) i (key a)

/-- The child that can lie behind all others: widest and tallest, painted first, promotable, and
around every other. -/
def background (t : Tolerances α) (items : List (Item α)) : Option Nat := do
  let widest ← firstMax (·.box.width) items
  let tallest ← firstMax (·.box.height) items
  let candidate ← items[widest]?
  let others := items.eraseIdx widest
  if 2 ≤ items.length && widest == tallest && widest == 0 && candidate.promotable &&
      others.all (fun i => candidate.box.contains i.box t.containment) then
    some widest
  else none

def linesUp (tolerance : α) : List α → Bool
  | [] => true
  | a :: rest => (a :: rest).all fun b => Scalar.magnitude (b - a) ≤ tolerance

def alignmentOf (t : Tolerances α) (flow : Flow) (boxes : List (Box α)) : Alignment :=
  match flow.mainAxis with
  | none => .start
  | some main =>
    let cross := main.cross
    if linesUp t.alignment (boxes.map (·.start cross)) then .start
    else if linesUp t.alignment (boxes.map fun b => b.start cross + b.extent cross / 2) then .center
    else if linesUp t.alignment (boxes.map (·.stop cross)) then .stop
    else .start

def inset (l : List α) : α := Scalar.greatest (Scalar.leastOf l) 0

def paddingOf (back : Box α) (boxes : List (Box α)) : Padding α :=
  if boxes.isEmpty then default
  else
    { top := inset (boxes.map (·.y))
      right := inset (boxes.map fun b => back.width - b.right)
      bottom := inset (boxes.map fun b => back.height - b.bottom)
      left := inset (boxes.map (·.x)) }

def ofMembers (t : Tolerances α) (promoted : Option Nat) (padding : List (Box α) → Padding α)
    (members : List (Placed α)) : Inference α :=
  let d := Detection.ofPlaced t members
  let boxes := members.map (·.2)
  { promoted
    flow := d.flow
    order := d.order
    spacing := d.spacing
    alignment := alignmentOf t d.flow boxes
    padding := if d.flow.isFlow then padding boxes else default }

def ofItems (t : Tolerances α) (items : List (Item α)) : Inference α :=
  let placed := Detection.place (items.map (·.box))
  match background t items with
  | none => ofMembers t none (fun _ => default) placed
  | some k =>
    let back := (items[k]?.map (·.box)).getD default
    ofMembers t (some k) (paddingOf back)
      ((placed.eraseIdx k).map fun p => (p.1, p.2.shift (-back.x) (-back.y)))

end Inference

end Artboard
