import Artboard.Proofs.Flowing
import Artboard.Proofs.Shifting
import Artboard.Proofs.Turning

/-!
# Replaying a row or a column

What inference tells of a background and the row or column on it is enough to put the children back:
with exact numbers and no tolerance, paddings, children and spacing fill the background, and equal
gaps bring each child back to where it was.
-/

open List

namespace Artboard

namespace Box

variable (axis : Axis) (b c : Box Rat)

/-! ## Boxes measured from a background -/

theorem start_shift_neg : (c.shift (-b.x) (-b.y)).start axis = c.start axis - b.start axis := by
  cases axis <;> exact (sub_eq_add_neg _ _).symm

theorem stop_shift_neg : (c.shift (-b.x) (-b.y)).stop axis = c.stop axis - b.start axis := by
  rw [stop_eq, stop_eq, start_shift_neg, extent_shift]
  ring

theorem contains_zero_iff : b.contains c 0 = true ↔
    ∀ axis, b.start axis ≤ c.start axis ∧ c.stop axis ≤ b.stop axis := by
  simp only [contains_iff, sub_zero, add_zero]

variable {axis}

theorem stop_le_of_getLast? {boxes : List (Box Rat)} {c : Box Rat}
    (hsize : ∀ b ∈ boxes, 0 ≤ b.extent axis) (hbefore : boxes.Pairwise (IsBefore 0 axis))
    (hlast : boxes.getLast? = some c) : ∀ b ∈ boxes, b.stop axis ≤ c.stop axis := by
  obtain ⟨front, rfl⟩ := getLast?_eq_some_iff.mp hlast
  intro b hb
  rcases mem_append.mp hb with hfront | hc
  · have hbc : b.stop axis - 0 ≤ c.start axis :=
      (pairwise_append.mp hbefore).2.2 b hfront c mem_cons_self
    have hc := hsize c (mem_append_right _ mem_cons_self)
    have hstop := stop_eq axis c
    linarith
  · rw [mem_singleton.mp hc]

theorem start_le_of_cons {b : Box Rat} {boxes : List (Box Rat)}
    (hsize : ∀ c ∈ b :: boxes, 0 ≤ c.extent axis)
    (hbefore : (b :: boxes).Pairwise (IsBefore 0 axis)) :
    ∀ c ∈ b :: boxes, b.start axis ≤ c.start axis := by
  rw [forall_mem_cons]
  refine ⟨le_refl _, fun c hc => ?_⟩
  have hbc : b.stop axis - 0 ≤ c.start axis := rel_of_pairwise_cons hbefore hc
  have hb := hsize b mem_cons_self
  have hstop := stop_eq axis b
  linarith

/-- Equal gaps add up along with the boxes they are between. -/
theorem start_eq_of_isChain {gap : Rat} : ∀ {b : Box Rat} {boxes : List (Box Rat)} {k : Nat}
    {c : Box Rat}, ((b :: boxes).IsChain fun c d => d.start axis - c.stop axis = gap) →
      (b :: boxes)[k]? = some c →
        c.start axis =
          b.start axis + (((b :: boxes).take k).map fun d => d.extent axis + gap).sum
  | b, boxes, 0, c, _, hc => by
    cases hc
    simp
  | b, [], k + 1, c, _, hc => by simp at hc
  | b, d :: boxes, k + 1, c, h, hc => by
    obtain ⟨hgap, htail⟩ := isChain_cons_cons.mp h
    have ih := start_eq_of_isChain htail hc
    have hstop := stop_eq axis b
    rw [take_succ_cons, map_cons, sum_cons]
    linarith

end Box

/-! ## Gaps and their mean -/

namespace Detection

variable {axis : Axis}

theorem length_gaps : ∀ (p : Placed Rat) (l : List (Placed Rat)),
    (gaps axis (p :: l)).length = l.length
  | _, [] => rfl
  | p, q :: l => by rw [gaps, length_cons, length_gaps q l, length_cons]

theorem start_add_sum_gaps : ∀ {p : Placed Rat} {l : List (Placed Rat)} {c : Box Rat},
    ((p :: l).map (·.2)).getLast? = some c →
      p.2.start axis + (((p :: l).map (·.2)).map (·.extent axis)).sum +
        (gaps axis (p :: l)).sum = c.stop axis
  | p, [], c, h => by
    cases h
    simp [gaps, Box.stop_eq]
  | p, q :: l, c, h => by
    have hlast : ((q :: l).map (·.2)).getLast? = some c := by
      rwa [map_cons, map_cons, getLast?_cons_cons] at h
    have ih := start_add_sum_gaps hlast
    have hstop := Box.stop_eq axis p.2
    rw [map_cons, map_cons, sum_cons, gaps, sum_cons]
    linarith

theorem gaps_eq_replicate {gap : Rat} : ∀ {p : Placed Rat} {l : List (Placed Rat)},
    (((p :: l).map (·.2)).IsChain fun c d => d.start axis - c.stop axis = gap) →
      gaps axis (p :: l) = replicate l.length gap
  | _, [], _ => rfl
  | p, q :: l, h => by
    obtain ⟨hgap, htail⟩ := isChain_cons_cons.mp h
    have ih := gaps_eq_replicate (p := q) (l := l) htail
    rw [gaps, ih, length_cons, replicate_succ, hgap]

theorem length_mul_meanGap {l : List Rat} (h : ∀ g ∈ l, 0 ≤ g) :
    (l.length : Rat) * meanGap l = l.sum := by
  cases l with
  | nil => simp [meanGap]
  | cons g l =>
    have hsum : 0 ≤ (g :: l).sum := sum_nonneg h
    have hpos : (0 : Rat) < ((g :: l).length : Rat) := by
      rw [length_cons]
      positivity
    have hmean : meanGap (g :: l) = (g :: l).sum / ((g :: l).length : Rat) := by
      have hquotient : 0 ≤ (g :: l).sum / ((g :: l).length : Rat) := div_nonneg hsum hpos.le
      rw [sum_eq_foldl] at hquotient ⊢
      exact if_pos (Or.inl hquotient)
    rw [hmean]
    field_simp

end Detection

/-! ## Paddings -/

namespace Padding

variable {α : Type} (p : Padding α)

def start : Axis → α
  | .horizontal => p.left
  | .vertical => p.top

def stop : Axis → α
  | .horizontal => p.right
  | .vertical => p.bottom

end Padding

namespace Inference

theorem inset_eq {l : List Rat} {a : Rat} (ha : a ∈ l) (hle : ∀ b ∈ l, a ≤ b) (hpos : 0 ≤ a) :
    inset l = a := by
  rw [inset, Scalar.leastOf_eq ha hle]
  exact if_pos (Or.inl hpos)

theorem start_paddingOf {back : Box Rat} {boxes : List (Box Rat)} (hne : boxes ≠ []) (axis : Axis) :
    (paddingOf back boxes).start axis = inset (boxes.map (·.start axis)) := by
  cases boxes with
  | nil => exact absurd rfl hne
  | cons b boxes => cases axis <;> rfl

theorem stop_paddingOf {back : Box Rat} {boxes : List (Box Rat)} (hne : boxes ≠ []) (axis : Axis) :
    (paddingOf back boxes).stop axis =
      inset (boxes.map fun b => back.extent axis - b.stop axis) := by
  cases boxes with
  | nil => exact absurd rfl hne
  | cons b boxes => cases axis <;> rfl

/-! ## A row or a column on its background -/

/-- What inference tells puts the children back, which are measured from the background. -/
structure Replays (i : Inference Rat) (axis : Axis) (back : Box Rat) (children : List (Box Rat)) :
    Prop where
  fills : i.padding.start axis + (children.map (·.extent axis)).sum +
    (children.length - 1) * i.spacing + i.padding.stop axis = back.extent axis
  starts : ∀ gap, (children.IsChain fun c d => d.start axis - c.stop axis = gap) →
    ∀ k c, children[k]? = some c → c.start axis =
      i.padding.start axis + ((children.take k).map fun d => d.extent axis + i.spacing).sum

section
variable {axis : Axis} {back : Box Rat} {p : Placed Rat} {l : List (Placed Rat)}
  (hsize : ∀ b ∈ (p :: l).map (·.2), 0 ≤ b.extent axis)
  (hinside : ∀ b ∈ (p :: l).map (·.2), 0 ≤ b.start axis ∧ b.stop axis ≤ back.extent axis)
  (hadvances : Detection.advances 0 axis (p :: l) = true)
include hsize hinside hadvances

omit hinside in
theorem pairwise_isBefore : ((p :: l).map (·.2)).Pairwise (Box.IsBefore 0 axis) :=
  Box.pairwise_of_isChain hsize
    ((Detection.advances_iff.mp hadvances).imp fun _ _ h => Box.isBefore_iff.mpr h)

omit hsize hinside in
theorem gaps_nonneg : ∀ g ∈ Detection.gaps axis (p :: l), 0 ≤ g := by
  intro g hg
  have hle : -0 ≤ g := of_decide_eq_true (all_eq_true.mp hadvances g hg)
  rwa [neg_zero] at hle

theorem start_padding_eq {boxes : List (Box Rat)} (hperm : (p :: l).map (·.2) ~ boxes) :
    (paddingOf back boxes).start axis = p.2.start axis := by
  have hne : boxes ≠ [] := ne_nil_of_perm hperm.symm (by simp)
  have hp : p.2 ∈ (p :: l).map (·.2) := mem_cons_self
  rw [start_paddingOf hne]
  refine inset_eq (mem_map_of_mem (hperm.mem_iff.mp hp)) ?_ (hinside p.2 hp).1
  rw [forall_mem_map]
  intro b hb
  exact Box.start_le_of_cons hsize (pairwise_isBefore hsize hadvances) b (hperm.mem_iff.mpr hb)

theorem stop_padding_eq {boxes : List (Box Rat)} (hperm : (p :: l).map (·.2) ~ boxes) {c : Box Rat}
    (hlast : ((p :: l).map (·.2)).getLast? = some c) :
    (paddingOf back boxes).stop axis = back.extent axis - c.stop axis := by
  have hne : boxes ≠ [] := ne_nil_of_perm hperm.symm (by simp)
  have hc : c ∈ (p :: l).map (·.2) := mem_of_getLast? hlast
  have hbefore := pairwise_isBefore hsize hadvances
  rw [stop_paddingOf hne]
  refine inset_eq (mem_map.mpr ⟨c, hperm.mem_iff.mp hc, rfl⟩) ?_ ?_
  · rw [forall_mem_map]
    intro b hb
    have hle := Box.stop_le_of_getLast? hsize hbefore hlast b (hperm.mem_iff.mpr hb)
    linarith
  · have hle := (hinside c hc).2
    linarith

end

theorem replays_of_advances {axis : Axis} {back : Box Rat} {p q : Placed Rat}
    {l : List (Placed Rat)} {i : Inference Rat} {boxes : List (Box Rat)}
    (hsize : ∀ b ∈ (p :: q :: l).map (·.2), 0 ≤ b.extent axis)
    (hinside : ∀ b ∈ (p :: q :: l).map (·.2), 0 ≤ b.start axis ∧ b.stop axis ≤ back.extent axis)
    (hadvances : Detection.advances 0 axis (p :: q :: l) = true)
    (hperm : (p :: q :: l).map (·.2) ~ boxes) (hpadding : i.padding = paddingOf back boxes)
    (hspacing : i.spacing = Detection.meanGap (Detection.gaps axis (p :: q :: l))) :
    Replays i axis back ((p :: q :: l).map (·.2)) := by
  have hstart := start_padding_eq hsize hinside hadvances hperm
  -- the spacing is the mean of all gaps, so it is as long as they are if it is taken as often
  have hmean := Detection.length_mul_meanGap (gaps_nonneg hadvances)
  rw [Detection.length_gaps, ← hspacing, length_cons, Nat.cast_add_one] at hmean
  rw [← hpadding] at hstart
  constructor
  · obtain ⟨c, hlast⟩ := Option.isSome_iff_exists.mp
      (show ((p :: q :: l).map (·.2)).getLast?.isSome by simp)
    have hstop := stop_padding_eq hsize hinside hadvances hperm hlast
    have hsum : p.2.start axis + (((p :: q :: l).map (·.2)).map (·.extent axis)).sum +
        (Detection.gaps axis (p :: q :: l)).sum = c.stop axis := Detection.start_add_sum_gaps hlast
    have hlength : (((p :: q :: l).map (·.2)).length : Rat) - 1 = l.length + 1 := by
      rw [length_map, length_cons, length_cons]
      push_cast
      ring
    rw [hlength, hmean, hstart, hpadding, hstop]
    linarith
  · intro gap hchain k c hc
    have hgap : i.spacing = gap := by
      rw [Detection.gaps_eq_replicate hchain, sum_replicate, length_cons, nsmul_eq_mul,
        Nat.cast_add_one] at hmean
      exact mul_left_cancel₀ (by positivity) hmean
    rw [hstart, hgap]
    exact Box.start_eq_of_isChain hchain hc

theorem members_inside {a : Item Rat} {rest : List (Item Rat)}
    (hsize : ∀ c ∈ rest, ∀ axis, 0 ≤ c.box.extent axis)
    (hbehind : ∀ c ∈ rest, a.LiesBehind 0 c) (axis : Axis) :
    ∀ b ∈ (members a rest).map (·.2),
      0 ≤ b.extent axis ∧ 0 ≤ b.start axis ∧ b.stop axis ≤ a.box.extent axis := by
  rw [members_boxes, forall_mem_map]
  intro c hc
  obtain ⟨hstart, hstop⟩ := (Box.contains_zero_iff a.box c.box).mp (hbehind c hc).contains axis
  have hextent := Box.stop_eq axis a.box
  rw [Box.extent_shift, Box.start_shift_neg, Box.stop_shift_neg]
  refine ⟨hsize c hc axis, ?_, ?_⟩ <;> linarith

/-- **What is told of a promoted background and the row or column on it restores the positions.** -/
theorem ofItems_replays (t : Tolerances Rat) (hgap : t.gap = 0) (hcontainment : t.containment = 0)
    (items : List (Item Rat)) (hsize : ∀ i ∈ items, ∀ axis, 0 ≤ i.box.extent axis) {k : Nat}
    (hpromoted : (ofItems t items).promoted = some k) {axis : Axis}
    (haxis : (ofItems t items).flow.mainAxis = some axis) :
    ∃ back children, (items[k]?).map (·.box) = some back ∧
      Forall₂ (fun i c => (items[i]?).map (fun a => a.box.shift (-back.x) (-back.y)) = some c)
        (ofItems t items).order children ∧
      Replays (ofItems t items) axis back children := by
  rw [promoted_ofItems] at hpromoted
  cases items with
  | nil => cases hpromoted
  | cons a rest =>
    obtain ⟨rfl, _, _, hbehind⟩ := background_cons_eq_some_iff.mp hpromoted
    rw [hcontainment] at hbehind
    rw [ofItems_of_background t hpromoted] at haxis ⊢
    obtain ⟨htwo, hadvances, hcross⟩ := Detection.mainAxis_ofPlaced_iff.mp haxis
    have hfound := Detection.ofPlaced_eq_along haxis htwo hadvances hcross
    have hperm : (Detection.sortAlong axis (members a rest)).map (·.2) ~
        (members a rest).map (·.2) := (mergeSort_perm _ _).map _
    have hinside := members_inside (fun c hc => hsize c (mem_cons_of_mem _ hc)) hbehind axis
    refine ⟨a.box, (Detection.sortAlong axis (members a rest)).map (·.2), rfl, ?_, ?_⟩
    · have horder : (ofMembers t (some 0) (paddingOf a.box) (members a rest)).order =
          (Detection.sortAlong axis (members a rest)).map (·.1) := congrArg Detection.order hfound
      rw [horder, forall₂_map_left_iff, forall₂_map_right_iff, forall₂_same]
      exact fun p hp => getElem?_of_mem_members (mem_mergeSort.mp hp)
    · have hpadding : (ofMembers t (some 0) (paddingOf a.box) (members a rest)).padding =
          paddingOf a.box ((members a rest).map (·.2)) := if_pos (Flow.isFlow_of_mainAxis haxis)
      have hspacing : (ofMembers t (some 0) (paddingOf a.box) (members a rest)).spacing =
          Detection.meanGap (Detection.gaps axis (Detection.sortAlong axis (members a rest))) :=
        congrArg Detection.spacing hfound
      rw [hgap] at hadvances
      -- fewer than two children are no row and no column
      match hsorted : Detection.sortAlong axis (members a rest) with
      | [] | [_] =>
        rw [← Detection.length_sortAlong axis, hsorted] at htwo
        simp at htwo
      | p :: q :: l =>
        rw [hsorted] at hadvances hperm hspacing
        exact replays_of_advances (fun b hb => (hinside b (hperm.mem_iff.mp hb)).1)
          (fun b hb => (hinside b (hperm.mem_iff.mp hb)).2) hadvances hperm hpadding hspacing

/-- Three keys on a tray; the one painted first is the last from the left. -/
def tray : List (Item Rat) :=
  [⟨⟨10, 20, 200, 100⟩, true⟩, ⟨⟨90, 30, 40, 40⟩, false⟩, ⟨⟨20, 32, 20, 10⟩, false⟩,
    ⟨⟨48, 40, 34, 20⟩, false⟩]

theorem tray_replays : (∀ i ∈ tray, ∀ axis, 0 ≤ i.box.extent axis) ∧
    (ofItems ⟨0, 0, 1 / 2⟩ tray).promoted = some 0 ∧
      (ofItems ⟨0, 0, 1 / 2⟩ tray).flow.mainAxis = some .horizontal ∧
        (ofItems ⟨0, 0, 1 / 2⟩ tray).order = [2, 3, 1] ∧
          Replays (ofItems ⟨0, 0, 1 / 2⟩ tray) .horizontal ⟨10, 20, 200, 100⟩
            [⟨10, 12, 20, 10⟩, ⟨38, 20, 34, 20⟩, ⟨80, 10, 40, 40⟩] := by
  have hsize : ∀ i ∈ tray, ∀ axis, 0 ≤ i.box.extent axis := by
    intro i hi axis
    revert i
    cases axis <;> decide +kernel
  have hpromoted : (ofItems ⟨0, 0, 1 / 2⟩ tray).promoted = some 0 := by cbv
  have haxis : (ofItems ⟨0, 0, 1 / 2⟩ tray).flow.mainAxis = some .horizontal := by cbv
  have horder : (ofItems ⟨0, 0, 1 / 2⟩ tray).order = [2, 3, 1] := by cbv
  obtain ⟨back, children, hback, hchildren, hreplays⟩ :=
    ofItems_replays ⟨0, 0, 1 / 2⟩ rfl rfl tray hsize hpromoted haxis
  rw [horder] at hchildren
  cases hback
  obtain _ | ⟨hfirst, _ | ⟨hsecond, _ | ⟨hthird, _ | _⟩⟩⟩ := hchildren
  have hboxes : [tray[2].box, tray[3].box, tray[1].box].map (fun b => b.shift (-10) (-20)) =
      [⟨10, 12, 20, 10⟩, ⟨38, 20, 34, 20⟩, ⟨80, 10, 40, 40⟩] := by cbv
  cases hfirst
  cases hsecond
  cases hthird
  exact ⟨hsize, hpromoted, haxis, horder, hboxes ▸ hreplays⟩

end Inference

end Artboard
