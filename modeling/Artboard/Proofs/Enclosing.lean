import Artboard.Proofs.PaintOrder
import Artboard.Proofs.Shifting
import Artboard.Proofs.Turning

/-!
# Boxes around an image

The box around a mapped rectangle is computed from its corners alone. With exact numbers each
coordinate of a map is linear, so it is least and greatest at corners, whichever these are: the box is
around the image of every point, and no smaller box is.
-/

open List

namespace Artboard

/-! ## Rectangles and their corners -/

/-- A multiple is least at one of the ends, which one depends on the sign. -/
theorem exists_end_mul_le {u width : Rat} (hu : 0 ≤ u) (huw : u ≤ width) (p : Rat) :
    ∃ e, (e = 0 ∨ e = width) ∧ p * e ≤ p * u := by
  rcases le_total 0 p with hp | hp
  · refine ⟨0, .inl rfl, ?_⟩
    rw [mul_zero]
    exact mul_nonneg hp hu
  · exact ⟨width, .inr rfl, mul_le_mul_of_nonpos_left huw hp⟩

namespace Affine

variable (m : Affine Rat) {width height : Rat}

theorem mem_corners_iff {p : Point Rat} : p ∈ m.corners width height ↔
    ∃ u v, (u = 0 ∨ u = width) ∧ (v = 0 ∨ v = height) ∧ m.apply ⟨u, v⟩ = p := by
  constructor
  · intro hp
    simp only [corners, mem_cons, not_mem_nil, or_false] at hp
    rcases hp with rfl | rfl | rfl | rfl
    · exact ⟨0, 0, .inl rfl, .inl rfl, rfl⟩
    · exact ⟨width, 0, .inr rfl, .inl rfl, rfl⟩
    · exact ⟨width, height, .inr rfl, .inr rfl, rfl⟩
    · exact ⟨0, height, .inl rfl, .inr rfl, rfl⟩
  · rintro ⟨u, v, rfl | rfl, rfl | rfl, rfl⟩ <;> simp [corners]

theorem exists_along_apply (axis : Axis) : ∃ p q r, ∀ u v,
    (m.apply ⟨u, v⟩).along axis = p * u + q * v + r := by
  cases axis with
  | horizontal => exact ⟨m.a, m.c, m.tx, fun _ _ => rfl⟩
  | vertical => exact ⟨m.b, m.d, m.ty, fun _ _ => rfl⟩

section
variable {u v : Rat} (hu : 0 ≤ u) (huw : u ≤ width) (hv : 0 ≤ v) (hvh : v ≤ height)
include hu huw hv hvh

theorem exists_corner_mul_le (p q : Rat) : ∃ e f, (e = 0 ∨ e = width) ∧ (f = 0 ∨ f = height) ∧
    p * e + q * f ≤ p * u + q * v := by
  obtain ⟨e, he, hle⟩ := exists_end_mul_le hu huw p
  obtain ⟨f, hf, hle'⟩ := exists_end_mul_le hv hvh q
  exact ⟨e, f, he, hf, add_le_add hle hle'⟩

theorem exists_corners_around (axis : Axis) :
    (∃ p ∈ m.corners width height, p.along axis ≤ (m.apply ⟨u, v⟩).along axis) ∧
      ∃ p ∈ m.corners width height, (m.apply ⟨u, v⟩).along axis ≤ p.along axis := by
  obtain ⟨p, q, r, happly⟩ := m.exists_along_apply axis
  constructor
  · obtain ⟨e, f, he, hf, hle⟩ := exists_corner_mul_le hu huw hv hvh p q
    refine ⟨_, m.mem_corners_iff.mpr ⟨e, f, he, hf, rfl⟩, ?_⟩
    rw [happly, happly]
    linarith
  · obtain ⟨e, f, he, hf, hle⟩ := exists_corner_mul_le hu huw hv hvh (-p) (-q)
    refine ⟨_, m.mem_corners_iff.mpr ⟨e, f, he, hf, rfl⟩, ?_⟩
    rw [happly, happly]
    linarith

end

theorem start_boundingBox (axis : Axis) : (m.boundingBox width height).start axis =
    Scalar.leastOf ((m.corners width height).map (·.along axis)) := by
  cases axis <;> rfl

theorem stop_boundingBox (axis : Axis) : (m.boundingBox width height).stop axis =
    Scalar.greatestOf ((m.corners width height).map (·.along axis)) := by
  cases axis <;> exact add_sub_cancel _ _

end Affine

/-! ## Boxes around an image -/

namespace Box

def Covers (b : Box Rat) (p : Point Rat) : Prop :=
  ∀ axis, b.start axis ≤ p.along axis ∧ p.along axis ≤ b.stop axis

/-- The box is around the image of a rectangle at the origin, and no larger than it has to be: each
of its sides has a corner of the image on it. -/
structure Encloses (b : Box Rat) (m : Affine Rat) (width height : Rat) : Prop where
  covers : ∀ u v, 0 ≤ u → u ≤ width → 0 ≤ v → v ≤ height → b.Covers (m.apply ⟨u, v⟩)
  extent_nonneg : ∀ axis, 0 ≤ b.extent axis
  start_touches : ∀ axis, ∃ p ∈ m.corners width height, b.Covers p ∧ p.along axis = b.start axis
  stop_touches : ∀ axis, ∃ p ∈ m.corners width height, b.Covers p ∧ p.along axis = b.stop axis

theorem ext_axis {b c : Box Rat} (hstart : ∀ axis, b.start axis = c.start axis)
    (hstop : ∀ axis, b.stop axis = c.stop axis) : b = c := by
  have hextent (axis : Axis) : b.extent axis = c.extent axis := by
    have hb := stop_eq axis b
    have hc := stop_eq axis c
    rw [hstop, hstart] at hb
    linarith
  cases b
  cases c
  rw [Box.mk.injEq]
  exact ⟨hstart .horizontal, hstart .vertical, hextent .horizontal, hextent .vertical⟩

section
variable {b c : Box Rat} {m : Affine Rat} {width height : Rat} (hwidth : 0 ≤ width)
  (hheight : 0 ≤ height)
include hwidth hheight

theorem Encloses.covers_corner (h : b.Encloses m width height) {p : Point Rat}
    (hp : p ∈ m.corners width height) : b.Covers p := by
  obtain ⟨u, v, rfl | rfl, rfl | rfl, rfl⟩ := m.mem_corners_iff.mp hp
  · exact h.covers 0 0 le_rfl hwidth le_rfl hheight
  · exact h.covers 0 v le_rfl hwidth hheight le_rfl
  · exact h.covers u 0 hwidth le_rfl le_rfl hheight
  · exact h.covers u v hwidth le_rfl hheight le_rfl

theorem Encloses.eq (hb : b.Encloses m width height) (hc : c.Encloses m width height) : b = c := by
  refine ext_axis (fun axis => ?_) (fun axis => ?_)
  · obtain ⟨p, hp, _, hpb⟩ := hb.start_touches axis
    obtain ⟨q, hq, _, hqc⟩ := hc.start_touches axis
    have hcp := (hc.covers_corner hwidth hheight hp axis).1
    have hbq := (hb.covers_corner hwidth hheight hq axis).1
    linarith
  · obtain ⟨p, hp, _, hpb⟩ := hb.stop_touches axis
    obtain ⟨q, hq, _, hqc⟩ := hc.stop_touches axis
    have hcp := (hc.covers_corner hwidth hheight hp axis).2
    have hbq := (hb.covers_corner hwidth hheight hq axis).2
    linarith

end

end Box

namespace Affine

variable (m : Affine Rat) {width height : Rat}

theorem covers_boundingBox_of_mem {p : Point Rat} (hp : p ∈ m.corners width height) :
    (m.boundingBox width height).Covers p := by
  intro axis
  have hmem := mem_map_of_mem (f := (·.along axis)) hp
  rw [start_boundingBox, stop_boundingBox]
  exact ⟨Scalar.leastOf_le hmem, Scalar.le_greatestOf hmem⟩

theorem encloses_boundingBox : (m.boundingBox width height).Encloses m width height := by
  have hne (axis : Axis) : (m.corners width height).map (·.along axis) ≠ [] := by simp [corners]
  constructor
  · intro u v hu huw hv hvh axis
    obtain ⟨⟨p, hp, hple⟩, q, hq, hqge⟩ := m.exists_corners_around hu huw hv hvh axis
    exact ⟨(m.covers_boundingBox_of_mem hp axis).1.trans hple,
      hqge.trans (m.covers_boundingBox_of_mem hq axis).2⟩
  · intro axis
    have horigin : m.apply ⟨0, 0⟩ ∈ m.corners width height := mem_cons_self
    obtain ⟨hle, hge⟩ := m.covers_boundingBox_of_mem horigin axis
    have hstop := Box.stop_eq axis (m.boundingBox width height)
    linarith
  · intro axis
    obtain ⟨p, hp, hpaxis⟩ := mem_map.mp (Scalar.leastOf_mem (hne axis))
    exact ⟨p, hp, m.covers_boundingBox_of_mem hp, by rw [hpaxis, start_boundingBox]⟩
  · intro axis
    obtain ⟨p, hp, hpaxis⟩ := mem_map.mp (Scalar.greatestOf_mem (hne axis))
    exact ⟨p, hp, m.covers_boundingBox_of_mem hp, by rw [hpaxis, stop_boundingBox]⟩

end Affine

/-! ## Boxes of what is not turned -/

namespace Geometry

variable [Circular Rat] {g : Geometry Rat} (hcosine : Circular.cosine (-g.rotation) = (1 : Rat))
  (hsine : Circular.sine (-g.rotation) = (0 : Rat))
include hcosine hsine

theorem along_transform_apply (u v : Rat) (axis : Axis) :
    (g.transform.apply ⟨u, v⟩).along axis = g.box.start axis + Point.along ⟨u, v⟩ axis := by
  cases axis <;> simp [Point.along, transform, Affine.mul, Affine.shift, Affine.turn, Affine.apply,
    Affine.applyVector, hcosine, hsine, Box.start, box, add_comm]

theorem encloses_box (hwidth : 0 ≤ g.width) (hheight : 0 ≤ g.height) :
    g.box.Encloses g.transform g.width g.height := by
  have hextent (axis : Axis) : 0 ≤ g.box.extent axis := by
    cases axis with
    | horizontal => exact hwidth
    | vertical => exact hheight
  have hcovers : ∀ u v, 0 ≤ u → u ≤ g.width → 0 ≤ v → v ≤ g.height →
      g.box.Covers (g.transform.apply ⟨u, v⟩) := by
    intro u v hu huw hv hvh axis
    rw [along_transform_apply hcosine hsine, Box.stop_eq]
    cases axis with
    | horizontal => exact ⟨le_add_of_nonneg_right hu, add_le_add_right huw _⟩
    | vertical => exact ⟨le_add_of_nonneg_right hv, add_le_add_right hvh _⟩
  -- the corner at the origin touches the near sides, the one across from it the far sides
  refine ⟨hcovers, hextent, fun axis => ?_, fun axis => ?_⟩
  · refine ⟨_, g.transform.mem_corners_iff.mpr ⟨0, 0, .inl rfl, .inl rfl, rfl⟩,
      hcovers 0 0 le_rfl hwidth le_rfl hheight, ?_⟩
    rw [along_transform_apply hcosine hsine]
    cases axis <;> exact add_zero _
  · refine ⟨_, g.transform.mem_corners_iff.mpr ⟨g.width, g.height, .inr rfl, .inr rfl, rfl⟩,
      hcovers g.width g.height hwidth le_rfl hheight le_rfl, ?_⟩
    rw [along_transform_apply hcosine hsine, Box.stop_eq]
    cases axis <;> rfl

end Geometry

/-- **The box around the image of a rectangle is the only tight one,** and if nothing is turned it is
the rectangle itself. -/
theorem boundingBox_encloses [Circular Rat] (m : Affine Rat) {width height : Rat}
    (hwidth : 0 ≤ width) (hheight : 0 ≤ height) :
    (m.boundingBox width height).Encloses m width height ∧
      (∀ b : Box Rat, b.Encloses m width height → b = m.boundingBox width height) ∧
      ∀ g : Geometry Rat, g.width = width → g.height = height →
        Circular.cosine (-g.rotation) = (1 : Rat) → Circular.sine (-g.rotation) = (0 : Rat) →
          g.transform.boundingBox width height = g.box ∧ g.boundingBox = g.box := by
  refine ⟨m.encloses_boundingBox,
    fun b hb => hb.eq hwidth hheight m.encloses_boundingBox, ?_⟩
  rintro g rfl rfl hcosine hsine
  have hbox : g.transform.boundingBox g.width g.height = g.box :=
    g.transform.encloses_boundingBox.eq hwidth hheight
      (Geometry.encloses_box hcosine hsine hwidth hheight)
  refine ⟨hbox, ?_⟩
  rw [Geometry.boundingBox, hbox, ite_self]

def slant : Affine Rat := ⟨-1, 1 / 2, 2, 1, 3, 4⟩

theorem slant_encloses : (0 : Rat) ≤ 40 ∧ (0 : Rat) ≤ 30 ∧
    slant.boundingBox 40 30 = ⟨-37, 4, 100, 50⟩ ∧
      (⟨-37, 4, 100, 50⟩ : Box Rat).Encloses slant 40 30 ∧
        (@Geometry.transform Rat _ Circular.still ⟨5, 6, 40, 30, 90⟩).boundingBox 40 30 =
          ⟨5, 6, 40, 30⟩ := by
  have hwidth : (0 : Rat) ≤ 40 := by norm_num
  have hheight : (0 : Rat) ≤ 30 := by norm_num
  have hbox : slant.boundingBox 40 30 = ⟨-37, 4, 100, 50⟩ := by cbv
  obtain ⟨hencloses, _, hstill⟩ := @boundingBox_encloses Circular.still slant 40 30 hwidth hheight
  exact ⟨hwidth, hheight, hbox, hbox ▸ hencloses, (hstill ⟨5, 6, 40, 30, 90⟩ rfl rfl rfl rfl).1⟩

end Artboard
