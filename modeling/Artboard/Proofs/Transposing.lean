import Artboard.Proofs.Sorting

/-!
# Rows and columns exchanged

Exchange the two axes in every box, and inference tells the same with the axes exchanged: rows become
columns and the edges of a padding trade places, while background, order, spacing and alignment stay.
Nothing is asked of the numbers, since the same sums and comparisons are made on both sides.
-/

open List

namespace Artboard

variable {α : Type} [Scalar α]

namespace Box

variable (b c : Box α)

omit [Scalar α] in
@[simp] theorem start_transpose (axis : Axis) : b.transpose.start axis = b.start axis.cross := by
  cases axis <;> rfl

@[simp] theorem stop_transpose (axis : Axis) : b.transpose.stop axis = b.stop axis.cross := by
  cases axis <;> rfl

theorem contains_transpose (tolerance : α) :
    b.transpose.contains c.transpose tolerance = b.contains c tolerance := by
  rw [Bool.eq_iff_iff, contains_iff, contains_iff]
  simp only [start_transpose, stop_transpose]
  constructor
  · intro h axis
    cases axis with
    | horizontal => exact h .vertical
    | vertical => exact h .horizontal
  · intro h axis
    exact h axis.cross

end Box

/-! ## Detection -/

namespace Detection

def transpose (d : Detection α) : Detection α := { d with flow := d.flow.transpose }

variable (axis : Axis)

theorem precedes_transpose (b c : Box α) :
    precedes axis b.transpose c.transpose = precedes axis.cross b c := by
  simp only [precedes, Box.start_transpose]

theorem gap_transpose (b c : Box α) : c.transpose.start axis - b.transpose.stop axis =
    c.start axis.cross - b.stop axis.cross := by
  rw [Box.start_transpose, Box.stop_transpose]

theorem advances_transpose (tolerance : α) (l : List (Placed α)) :
    advances tolerance axis (sortAlong axis (l.map (Prod.map id Box.transpose))) =
      advances tolerance axis.cross (sortAlong axis.cross l) :=
  advances_map (precedes_transpose axis) (gap_transpose axis) tolerance l

theorem along_transpose (flow : Flow) (l : List (Placed α)) :
    along flow.transpose axis (sortAlong axis (l.map (Prod.map id Box.transpose))) =
      (along flow axis.cross (sortAlong axis.cross l)).transpose :=
  along_map (precedes_transpose axis) (gap_transpose axis) flow.transpose l

theorem ofPlaced_transpose (t : Tolerances α) (l : List (Placed α)) :
    ofPlaced t (l.map (Prod.map id Box.transpose)) = (ofPlaced t l).transpose := by
  unfold ofPlaced
  rw [length_map]
  by_cases htwo : l.length < 2
  · rw [if_pos htwo, if_pos htwo, free_map]
    rfl
  · rw [if_neg htwo, if_neg htwo]
    simp only [advances_transpose, Axis.cross]
    cases advances t.gap .horizontal (sortAlong .horizontal l) <;>
      cases advances t.gap .vertical (sortAlong .vertical l)
    · exact free_map _ l
    · exact along_transpose .horizontal .column l
    · exact along_transpose .vertical .row l
    · exact free_map _ l

end Detection

/-! ## Inference -/

def Item.transpose (i : Item α) : Item α := { i with box := i.box.transpose }

namespace Inference

def transpose (i : Inference α) : Inference α :=
  { i with flow := i.flow.transpose, padding := i.padding.transpose }

variable (t : Tolerances α)

theorem liesBehind_transpose_iff {tolerance : α} (a b : Item α) :
    a.transpose.LiesBehind tolerance b.transpose ↔ a.LiesBehind tolerance b := by
  have hcontains := Box.contains_transpose a.box b.box tolerance
  constructor
  · intro h
    exact ⟨h.height, h.width, hcontains ▸ h.contains⟩
  · intro h
    exact ⟨h.height, h.width, hcontains.trans h.contains⟩

theorem background_transpose (items : List (Item α)) :
    background t (items.map Item.transpose) = background t items :=
  background_map (f := Item.transpose) (fun _ => rfl) liesBehind_transpose_iff items

theorem alignmentOf_transpose (flow : Flow) (boxes : List (Box α)) :
    alignmentOf t flow.transpose (boxes.map Box.transpose) = alignmentOf t flow boxes := by
  cases flow <;> simp only [alignmentOf, Flow.transpose, Flow.mainAxis, map_map] <;> rfl

theorem paddingOf_transpose (back : Box α) (boxes : List (Box α)) :
    paddingOf back.transpose (boxes.map Box.transpose) = (paddingOf back boxes).transpose := by
  cases boxes with
  | nil => rfl
  | cons b boxes =>
    simp only [paddingOf, isEmpty_map, map_map]
    rfl

theorem ofMembers_transpose (promoted : Option Nat) {padding padding' : List (Box α) → Padding α}
    (hpadding : ∀ boxes, padding' (boxes.map Box.transpose) = (padding boxes).transpose)
    (members : List (Placed α)) :
    ofMembers t promoted padding' (members.map (Prod.map id Box.transpose)) =
      (ofMembers t promoted padding members).transpose := by
  have hflow : (Detection.ofPlaced t members).flow.transpose.isFlow =
      (Detection.ofPlaced t members).flow.isFlow := by
    cases (Detection.ofPlaced t members).flow <;> rfl
  simp only [ofMembers, Detection.map_snd_map, Detection.ofPlaced_transpose, Detection.transpose,
    alignmentOf_transpose, hpadding, hflow, transpose]
  cases (Detection.ofPlaced t members).flow.isFlow <;> rfl

/-- **Inference treats rows and columns alike.** -/
theorem ofItems_transpose (items : List (Item α)) :
    ofItems t (items.map Item.transpose) = (ofItems t items).transpose := by
  have hback := background_transpose t items
  have hbox : ∀ i : Item α, i.transpose.box = i.box.transpose := fun _ => rfl
  rcases background_cases t items with hb | ⟨a, rest, rfl, hb⟩
  · rw [hb] at hback
    rw [ofItems_of_no_background t hb, ofItems_of_no_background t hback,
      Detection.place_map_items hbox]
    exact ofMembers_transpose t none (fun _ => rfl) _
  · rw [hb, map_cons] at hback
    rw [map_cons, ofItems_of_background t hb, ofItems_of_background t hback,
      members_map (k := Box.transpose) hbox fun _ => rfl]
    exact ofMembers_transpose t (some 0) (paddingOf_transpose a.box) _

end Inference

end Artboard
