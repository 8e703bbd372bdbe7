import Artboard.Proofs.Unfolding
import Mathlib

/-!
# Boxes around what is turned

With exact numbers the box around a turned rectangle is shifted along with the rectangle, whatever
the cosine and the sine of the turn. A box is computed once, of a snapshot, and from then on shifted
as often as its element: it is always the one that the geometry of the element gives.
-/

open List

namespace Artboard

/-! ## Least and greatest numbers -/

namespace Scalar

theorem least_eq_min (a b : Rat) : least a b = min a b := by
  rw [least, min_def]
  simp

theorem greatest_eq_max (a b : Rat) : greatest a b = max a b := by
  rw [greatest, max_comm, max_def]
  simp

theorem filter_beq_self (l : List Rat) : l.filter (fun a => a == a) = l := by
  simp

variable {l : List Rat}

theorem min?_eq_leastOf (hl : l ≠ []) : l.min? = some (leastOf l) := by
  cases l with
  | nil => exact absurd rfl hl
  | cons a l => rw [min?_cons', leastOf, filter_beq_self, funext₂ least_eq_min]

theorem max?_eq_greatestOf (hl : l ≠ []) : l.max? = some (greatestOf l) := by
  cases l with
  | nil => exact absurd rfl hl
  | cons a l => rw [max?_cons', greatestOf, filter_beq_self, funext₂ greatest_eq_max]

theorem leastOf_mem (hl : l ≠ []) : leastOf l ∈ l :=
  (min?_eq_some_iff.mp (min?_eq_leastOf hl)).1

theorem leastOf_le {a : Rat} (ha : a ∈ l) : leastOf l ≤ a :=
  (min?_eq_some_iff.mp (min?_eq_leastOf (ne_nil_of_mem ha))).2 a ha

theorem greatestOf_mem (hl : l ≠ []) : greatestOf l ∈ l :=
  (max?_eq_some_iff.mp (max?_eq_greatestOf hl)).1

theorem le_greatestOf {a : Rat} (ha : a ∈ l) : a ≤ greatestOf l :=
  (max?_eq_some_iff.mp (max?_eq_greatestOf (ne_nil_of_mem ha))).2 a ha

theorem leastOf_eq {a : Rat} (ha : a ∈ l) (hle : ∀ b ∈ l, a ≤ b) : leastOf l = a :=
  le_antisymm (leastOf_le ha) (hle _ (leastOf_mem (ne_nil_of_mem ha)))

theorem greatestOf_eq {a : Rat} (ha : a ∈ l) (hle : ∀ b ∈ l, b ≤ a) : greatestOf l = a :=
  le_antisymm (hle _ (greatestOf_mem (ne_nil_of_mem ha))) (le_greatestOf ha)

section
variable (hl : l ≠ []) (d : Rat)
include hl

theorem leastOf_map_add : leastOf (l.map (· + d)) = leastOf l + d := by
  refine leastOf_eq (mem_map_of_mem (leastOf_mem hl)) ?_
  rw [forall_mem_map]
  exact fun b hb => add_le_add_left (leastOf_le hb) d

theorem greatestOf_map_add : greatestOf (l.map (· + d)) = greatestOf l + d := by
  refine greatestOf_eq (mem_map_of_mem (greatestOf_mem hl)) ?_
  rw [forall_mem_map]
  exact fun b hb => add_le_add_left (le_greatestOf hb) d

end

end Scalar

/-! ## Maps and boxes -/

namespace Affine

def shifted (m : Affine Rat) (dx dy : Rat) : Affine Rat := { m with tx := m.tx + dx, ty := m.ty + dy }

theorem apply_shifted (m : Affine Rat) (dx dy : Rat) (p : Point Rat) :
    (m.shifted dx dy).apply p = ⟨(m.apply p).x + dx, (m.apply p).y + dy⟩ := by
  simp only [apply, applyVector, shifted, Point.mk.injEq]
  constructor <;> grind

theorem corners_shifted (m : Affine Rat) (dx dy width height : Rat) :
    (m.shifted dx dy).corners width height =
      (m.corners width height).map fun p => ⟨p.x + dx, p.y + dy⟩ := by
  simp [corners, apply_shifted]

theorem boundingBox_shifted (m : Affine Rat) (dx dy width height : Rat) :
    (m.shifted dx dy).boundingBox width height = (m.boundingBox width height).shift dx dy := by
  have hne : m.corners width height ≠ [] := by simp [corners]
  have hxs : ((m.shifted dx dy).corners width height).map (·.x) =
      ((m.corners width height).map (·.x)).map (· + dx) := by
    rw [corners_shifted, map_map, map_map]
    rfl
  have hys : ((m.shifted dx dy).corners width height).map (·.y) =
      ((m.corners width height).map (·.y)).map (· + dy) := by
    rw [corners_shifted, map_map, map_map]
    rfl
  have hxne : (m.corners width height).map (·.x) ≠ [] := by simpa using hne
  have hyne : (m.corners width height).map (·.y) ≠ [] := by simpa using hne
  simp only [boundingBox, Box.shift, hxs, hys, Scalar.leastOf_map_add hxne,
    Scalar.leastOf_map_add hyne, Scalar.greatestOf_map_add hxne, Scalar.greatestOf_map_add hyne,
    Box.mk.injEq, true_and]
  constructor <;> grind

end Affine

namespace Geometry

variable [Circular Rat]

theorem transform_shift (g : Geometry Rat) (dx dy : Rat) :
    (g.shift dx dy).transform = g.transform.shifted dx dy := by
  simp only [transform, shift, Affine.shift, Affine.mul, Affine.turn, Affine.shifted, Affine.apply,
    Affine.applyVector, Affine.mk.injEq, true_and]
  constructor <;> grind

/-- **A box is shifted along with its geometry.** -/
theorem boundingBox_shift (g : Geometry Rat) (dx dy : Rat) :
    (g.shift dx dy).boundingBox = g.boundingBox.shift dx dy := by
  unfold boundingBox
  have hrotated : (g.shift dx dy).isRotated = g.isRotated := rfl
  rw [hrotated]
  by_cases h : g.isRotated = true
  · rw [if_pos h, if_pos h, transform_shift]
    exact Affine.boundingBox_shifted g.transform dx dy g.width g.height
  · rw [if_neg h, if_neg h]
    rfl

end Geometry

/-! ## Boxes of elements -/

namespace Element

variable {α : Type} [Scalar α] [Circular α]

/-- The box is the one around the element as it stands and as it is turned. -/
def IsEnclosed (e : Element α) : Prop := e.props.bounds = e.props.geometry.boundingBox

theorem IsEnclosed.congr {e e' : Element α} (h : e.IsEnclosed) (hp : e'.props = e.props) :
    e'.IsEnclosed := by
  unfold IsEnclosed at h ⊢
  rw [hp, h]

theorem isEnclosed_snapshotProps (k : Kind α) (d : Draft α) : IsEnclosed ⟨k, d.snapshotProps⟩ := rfl

theorem isEnclosed_snapshot {d : Draft α} {e : Element α} (h : d.snapshot = some e) :
    e.IsEnclosed := by
  unfold Draft.snapshot at h
  cases hk : d.kind with
  | unsupported name => simp [hk] at h
  | _ =>
    simp only [hk, Option.some.injEq] at h
    subst h
    rfl

end Element

theorem Element.IsEnclosed.shift [Circular Rat] {e : Element Rat} (h : e.IsEnclosed) (dx dy : Rat) :
    (e.shift dx dy).IsEnclosed := by
  have hbox := Geometry.boundingBox_shift e.props.geometry dx dy
  have hbounds : (e.shift dx dy).props.bounds = e.props.bounds.shift dx dy := rfl
  unfold IsEnclosed at h ⊢
  rw [hbounds, h]
  exact hbox.symm

theorem Figure.isEnclosed_invariant [Circular Rat] (o : NormalizeOptions Rat) :
    Invariant o (fun _ => True) fun e _ => e.IsEnclosed where
  shift := fun h dx dy => h.shift dx dy
  settle := fun {e} {_} h f => h.congr (Element.props_settle f e)
  leaf := fun _ _ _ he => Element.isEnclosed_snapshot he
  emptied := fun _ _ _ => Element.isEnclosed_snapshotProps _ _
  container := fun _ _ _ _ _ => Element.isEnclosed_snapshotProps _ _
  promoted := fun h _ _ _ => h.congr rfl
  group := fun _ _ _ _ _ => Element.isEnclosed_snapshotProps _ _

/-- **Every stored box is the box of the geometry,** for any cosines and sines. -/
theorem normalize_isEnclosed [Circular Rat] (o : NormalizeOptions Rat) (c : Context)
    (selection : List (HostNode Rat)) {a : Arena Rat}
    (h : (normalizeInto o c selection).1 = .ok a) : a.Everywhere Element.IsEnclosed := by
  obtain ⟨_, rfl⟩ := normalizeSources_eq_ok_iff.mp h
  have hunfolds := Arena.restructure_unfoldsAll o (HostNode.toSources selection)
  rw [Arena.everywhere_iff hunfolds]
  exact (Figure.isEnclosed_invariant o).everyOf_figures fun _ _ => trivial

def leaning : List (HostNode Rat) :=
  [.node (.plain "1" "outer" .group ⟨10, 20, 100, 100, 0⟩)
    [.node (.plain "2" "inner" .group ⟨1 / 2, 1 / 3, 90, 90, 0⟩)
      [.node (.plain "3" "card" .rectangle ⟨0, 0, 40, 30, 37⟩) []]]]

/-- As if every angle turned along the diagonal of a rectangle of four by three. -/
@[reducible] def Circular.diagonal : Circular Rat := ⟨fun _ => 4 / 5, fun _ => 3 / 5, fun _ _ => 0⟩

theorem leaning_isEnclosed : ∃ a : Arena Rat,
    (@normalizeInto Rat _ Circular.diagonal default .empty leaning).1 = .ok a ∧ a.Reachable 2 ∧
      ∃ s, a.get? 2 = some s ∧ @Element.IsEnclosed Rat _ Circular.diagonal s.element ∧
        s.element.props.bounds = ⟨-15 / 2, 61 / 3, 50, 48⟩ := by
  have hholds := @Arena.restructure_holds Rat _ Circular.diagonal default
    (HostNode.toSources leaning)
  have hcard := hholds.get? (i := 2) mem_cons_self
  have hreach : (@restructure Rat _ Circular.diagonal default
      (HostNode.toSources leaning)).Reachable 2 := .root (by exact mem_cons_self)
  have henclosed := @normalize_isEnclosed Circular.diagonal default .empty leaning _ rfl
  exact ⟨_, rfl, hreach, _, hcard, henclosed 2 _ hreach hcard, by cbv⟩

end Artboard
