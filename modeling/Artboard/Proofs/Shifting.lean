import Artboard.Proofs.Aligning
import Artboard.Proofs.Separation

/-!
# Content that is moved

With exact numbers inference does not see where the content of a container sits. Order, gaps and
lines only compare boxes with each other; beside a background the boxes are measured from it, and it
moves along.
-/

open List

namespace Artboard

def Point.along {α : Type} (p : Point α) : Axis → α
  | .horizontal => p.x
  | .vertical => p.y

namespace Box

variable (axis : Axis) (b c : Box Rat) (dx dy : Rat)

/-! ## Boxes -/

theorem start_shift : (b.shift dx dy).start axis = b.start axis + Point.along ⟨dx, dy⟩ axis := by
  cases axis <;> rfl

theorem extent_shift : (b.shift dx dy).extent axis = b.extent axis := by
  cases axis <;> rfl

theorem stop_shift : (b.shift dx dy).stop axis = b.stop axis + Point.along ⟨dx, dy⟩ axis := by
  rw [stop_eq, stop_eq, start_shift, extent_shift, add_right_comm]

theorem line_shift (a : Alignment) :
    a.line axis (b.shift dx dy) = a.line axis b + Point.along ⟨dx, dy⟩ axis := by
  cases a with
  | start | baseline => exact start_shift axis b dx dy
  | center => rw [Alignment.line, Alignment.line, start_shift, extent_shift, add_right_comm]
  | stop => exact stop_shift axis b dx dy

theorem shift_shift_neg : (c.shift dx dy).shift (-(b.shift dx dy).x) (-(b.shift dx dy).y) =
    c.shift (-b.x) (-b.y) := by
  have hback (u v d : Rat) : u + d + -(v + d) = u + -v := by
    rw [← sub_eq_add_neg, ← sub_eq_add_neg, add_sub_add_right_eq_sub]
  simp only [shift, hback]

theorem contains_shift (tolerance : Rat) :
    (b.shift dx dy).contains (c.shift dx dy) tolerance = b.contains c tolerance := by
  rw [Bool.eq_iff_iff, contains_iff, contains_iff]
  refine forall_congr' fun axis => ?_
  rw [start_shift, start_shift, stop_shift, stop_shift]
  constructor <;> rintro ⟨hstart, hstop⟩ <;> constructor <;> linarith

end Box

/-! ## Detection -/

namespace Detection

variable (axis : Axis) (dx dy : Rat) (l : List (Placed Rat))

theorem totalCompare_add (a b d : Rat) :
    Scalar.totalCompare (a + d) (b + d) = Scalar.totalCompare a b := by
  change (if a + d < b + d then Ordering.lt else if a + d = b + d then .eq else .gt) =
    (if a < b then Ordering.lt else if a = b then .eq else .gt)
  simp only [add_lt_add_iff_right, add_left_inj]

theorem precedes_shift (b c : Box Rat) :
    precedes axis (b.shift dx dy) (c.shift dx dy) = precedes axis b c := by
  simp only [precedes, Box.start_shift, totalCompare_add]

theorem gap_shift (b c : Box Rat) :
    (c.shift dx dy).start axis - (b.shift dx dy).stop axis = c.start axis - b.stop axis := by
  rw [Box.start_shift, Box.stop_shift, add_sub_add_right_eq_sub]

theorem ofPlaced_shift (t : Tolerances Rat) :
    ofPlaced t (l.map (Prod.map id fun b => b.shift dx dy)) = ofPlaced t l := by
  have hadvances := fun axis => advances_map (precedes_shift axis dx dy) (gap_shift axis dx dy)
  have halong := fun axis => along_map (precedes_shift axis dx dy) (gap_shift axis dx dy)
  simp only [ofPlaced, length_map, hadvances, halong, free_map]

end Detection

/-! ## Inference -/

def Item.shift {α : Type} [Scalar α] (i : Item α) (dx dy : α) : Item α :=
  { i with box := i.box.shift dx dy }

namespace Inference

variable (t : Tolerances Rat) (dx dy : Rat)

theorem liesBehind_shift_iff {tolerance : Rat} (a b : Item Rat) :
    (a.shift dx dy).LiesBehind tolerance (b.shift dx dy) ↔ a.LiesBehind tolerance b := by
  have hcontains := Box.contains_shift a.box b.box dx dy tolerance
  constructor
  · intro h
    exact ⟨h.width, h.height, hcontains ▸ h.contains⟩
  · intro h
    exact ⟨h.width, h.height, hcontains.trans h.contains⟩

theorem background_shift (items : List (Item Rat)) :
    background t (items.map fun i => i.shift dx dy) = background t items :=
  background_map (f := fun i => i.shift dx dy) (fun _ => rfl) (liesBehind_shift_iff dx dy) items

theorem linesUp_map_add (tolerance d : Rat) (l : List Rat) :
    linesUp tolerance (l.map (· + d)) = linesUp tolerance l := by
  cases l with
  | nil => rfl
  | cons a l =>
    rw [map_cons, linesUp, linesUp, ← map_cons (f := (· + d)), all_map]
    refine all_congr rfl fun b => ?_
    rw [Function.comp_apply, add_sub_add_right_eq_sub]

theorem alignmentOf_shift (flow : Flow) (boxes : List (Box Rat)) :
    alignmentOf t flow (boxes.map fun b => b.shift dx dy) = alignmentOf t flow boxes := by
  cases h : flow.mainAxis with
  | none => rw [alignmentOf_of_free t h, alignmentOf_of_free t h]
  | some main =>
    rw [alignmentOf_eq_firstOf t h, alignmentOf_eq_firstOf t h]
    refine Alignment.firstOf_congr fun a => ?_
    have hlines : (boxes.map fun b => b.shift dx dy).map (a.line main.cross) =
        (boxes.map (a.line main.cross)).map (· + Point.along ⟨dx, dy⟩ main.cross) := by
      rw [map_map, map_map]
      exact map_congr_left fun b _ => Box.line_shift main.cross b dx dy a
    rw [hlines, linesUp_map_add]

theorem ofMembers_shift (promoted : Option Nat) (p : Padding Rat) (members : List (Placed Rat)) :
    ofMembers t promoted (fun _ => p) (members.map (Prod.map id fun b => b.shift dx dy)) =
      ofMembers t promoted (fun _ => p) members := by
  simp only [ofMembers, Detection.ofPlaced_shift, Detection.map_snd_map, alignmentOf_shift]

/-- **Where the content sits makes no difference.** -/
theorem ofItems_shift (items : List (Item Rat)) :
    ofItems t (items.map fun i => i.shift dx dy) = ofItems t items := by
  have hback := background_shift t dx dy items
  have hbox : ∀ i : Item Rat, (i.shift dx dy).box = i.box.shift dx dy := fun _ => rfl
  rcases background_cases t items with hb | ⟨a, rest, rfl, hb⟩
  · rw [hb] at hback
    rw [ofItems_of_no_background t hb, ofItems_of_no_background t hback,
      Detection.place_map_items (f := fun b => b.shift dx dy) hbox]
    exact ofMembers_shift t dx dy none default _
  · -- the children beside a background move along with it
    have hmembers : members (a.shift dx dy) (rest.map fun i => i.shift dx dy) = members a rest := by
      rw [members_map (f := fun b => b.shift dx dy) (k := id) hbox fun b =>
        Box.shift_shift_neg a.box b dx dy, Prod.map_id, map_id]
    rw [hb, map_cons] at hback
    rw [map_cons, ofItems_of_background t hb, ofItems_of_background t hback, hmembers]
    rfl

end Inference

end Artboard
