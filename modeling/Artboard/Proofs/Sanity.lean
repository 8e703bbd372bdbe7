import Artboard.Proofs.Clamping
import Artboard.Proofs.Origins
import Artboard.Proofs.Snapshots

/-!
# Sane elements

Whatever a host tells of its nodes, what a run makes of them can be drawn: it is to be seen, has an
extent and an opacity, and keeps those of the host's properties that mean something outside of the
host, in their order.
-/

open List

namespace Artboard

variable {α : Type} [Scalar α]

/-! ## Surviving host nodes -/

namespace HostNode

mutual

def survivors : HostNode α → List (HostNode α)
  | node p cs =>
    if p.toDraft.isKept then
      node p cs :: (if p.kind.toSource.hasChildren then survivorsOfAll cs else [])
    else []

def survivorsOfAll : List (HostNode α) → List (HostNode α)
  | [] => []
  | n :: ns => survivors n ++ survivorsOfAll ns

end

mutual

theorem survivors_toSource : ∀ n : HostNode α,
    n.toSource.survivors = n.survivors.map toSource
  | node p cs => by
    have ih := survivorsOfAll_toSources cs
    rw [toSource, Source.survivors, survivors, ih]
    change (if p.toDraft.isKept then _ :: (if p.kind.toSource.hasChildren then _ else []) else []) =
      _
    split
    · split <;> simp [toSource]
    · rfl

theorem survivorsOfAll_toSources : ∀ ns : List (HostNode α),
    Source.survivorsOfAll (toSources ns) = (survivorsOfAll ns).map toSource
  | [] => rfl
  | n :: ns => by
    rw [toSources, Source.survivorsOfAll, survivorsOfAll, survivors_toSource n,
      survivorsOfAll_toSources ns, map_append]

end

mutual

theorem isKept_of_mem_survivors : ∀ {n : HostNode α} {m : HostNode α}, m ∈ n.survivors →
    m.props.toDraft.isKept = true
  | node p cs, m, hm => by
    rw [survivors] at hm
    split at hm
    · rename_i hkept
      rcases mem_cons.1 hm with rfl | hm
      · exact hkept
      · split at hm
        · exact isKept_of_mem_survivorsOfAll hm
        · cases hm
    · cases hm

theorem isKept_of_mem_survivorsOfAll : ∀ {ns : List (HostNode α)} {m : HostNode α},
    m ∈ survivorsOfAll ns → m.props.toDraft.isKept = true
  | n :: ns, m, hm => by
    rw [survivorsOfAll] at hm
    rcases mem_append.1 hm with hm | hm
    · exact isKept_of_mem_survivors hm
    · exact isKept_of_mem_survivorsOfAll hm

end

end HostNode

/-! ## Sanity -/

/-- An element that can be drawn, made of what the host tells. -/
structure HostProps.IsSaneIn (p : HostProps α) (e : Element α) : Prop where
  id : e.props.id = p.id
  name : e.props.name = p.name
  visible : e.props.visible = true
  width_isFinite : Scalar.isFinite e.props.geometry.width = true
  height_isFinite : Scalar.isFinite e.props.geometry.height = true
  width_nonneg : 0 ≤ e.props.geometry.width
  height_nonneg : 0 ≤ e.props.geometry.height
  extent : ¬(e.props.geometry.width == 0 ∧ e.props.geometry.height == 0)
  opacity_nonneg : 0 ≤ e.props.opacity
  opacity_le_one : e.props.opacity ≤ 1
  effects : ∀ f ∈ e.props.effects, f.isVisible = true
  properties : e.props.properties = p.extra.filter fun q => q.1 ∉ blockedProperties
  fills : e.kind = .boolean → e.props.fills = [.image ⟨none, .fill, 1⟩]

theorem Geometry.nonneg_of_hasExtent [FiniteOrder α] {g : Geometry α} (h : g.hasExtent = true) :
    (Scalar.isFinite g.width = true ∧ 0 ≤ g.width) ∧
      (Scalar.isFinite g.height = true ∧ 0 ≤ g.height) ∧ ¬(g.width == 0 ∧ g.height == 0) := by
  simp only [hasExtent, Bool.and_eq_true, Bool.not_eq_true', decide_eq_false_iff_not,
    Bool.and_eq_false_iff] at h
  obtain ⟨⟨⟨⟨hw, hh⟩, hw0⟩, hh0⟩, hextent⟩ := h
  have hzero := FiniteOrder.isFinite_zero (α := α)
  refine ⟨⟨hw, FiniteOrder.le_of_not_lt hw hzero hw0⟩,
    ⟨hh, FiniteOrder.le_of_not_lt hh hzero hh0⟩, ?_⟩
  rintro ⟨hw', hh'⟩
  rcases hextent with hne | hne
  · rw [hne] at hw'
    cases hw'
  · rw [hne] at hh'
    cases hh'

variable [Circular α]

theorem Draft.exists_fills {d : Draft α} {e : Element α} (he : d.snapshot = some e) :
    ∃ fs, e.props = { d.snapshotProps with fills := fs } ∧
      (e.kind = .boolean → fs = [Paint.placeholder]) := by
  rcases Draft.snapshot_cases he with ⟨hk, hprops⟩ | rfl
  · exact ⟨_, hprops, fun hb => absurd hb hk⟩
  · exact ⟨_, rfl, fun _ => rfl⟩

theorem Source.Stems.exists_props {s : Source α} {e : Element α} (h : s.Stems e) :
    ∃ x y box fs, e.props = { s.draft.snapshotProps with
        geometry := { s.draft.props.geometry with x, y }, bounds := box, fills := fs } ∧
      (e.kind = .boolean → fs = [Paint.placeholder]) := by
  obtain ⟨e₀, he₀, hplace, hkind⟩ := h
  obtain ⟨fs, hprops, hfills⟩ := Draft.exists_fills he₀
  unfold Props.AgreeButPlace at hplace
  rw [hprops] at hplace
  exact ⟨_, _, _, fs, hplace, fun hb => hfills (hkind hb)⟩

variable [FiniteOrder α]

theorem HostProps.isSaneIn_of_stems {p : HostProps α} {cs : List (Source α)} {e : Element α}
    (hkept : p.toDraft.isKept = true) (hfinite : Scalar.isFinite p.opacity = true)
    (h : (Source.node p.toDraft cs).Stems e) : p.IsSaneIn e := by
  -- only place, bounds and fills can differ from those of the snapshot
  obtain ⟨x, y, box, fs, hprops, hfills⟩ := h.exists_props
  obtain ⟨hvisible, hextent⟩ := Draft.of_isKept hkept
  obtain ⟨hwidth, hheight, hboth⟩ := Geometry.nonneg_of_hasExtent hextent
  have hopacity := Scalar.clamp_mem hfinite
  constructor <;> rw [hprops]
  · rfl
  · rfl
  · exact hvisible
  · exact hwidth.1
  · exact hheight.1
  · exact hwidth.2
  · exact hheight.2
  · exact hboth
  · exact hopacity.1
  · exact hopacity.2
  · exact fun f hf => (mem_filter.1 hf).2
  · apply filter_congr
    intro q _
    simp [isBlocked]
  · exact hfills

/-- **Every reachable slot is sane.** Each has become of a survivor of its own. -/
theorem normalize_isSane (o : NormalizeOptions α) (c : Context) (selection : List (HostNode α))
    (hfinite : ∀ n ∈ HostNode.survivorsOfAll selection, Scalar.isFinite n.props.opacity = true)
    {a : Arena α} (h : (normalizeInto o c selection).1 = .ok a) :
    ∃ ns is, ns <+ HostNode.survivorsOfAll selection ∧ is.Nodup ∧
      (∀ i, i ∈ is ↔ a.Reachable i) ∧
      Forall₂ (fun n i => ∃ t, a.get? i = some t ∧ n.props.IsSaneIn t.element) ns is := by
  obtain ⟨_, rfl⟩ := normalizeSources_eq_ok_iff.mp h
  obtain ⟨ss, is, hss, hstems⟩ := Arena.exists_stemsFrom o (HostNode.toSources selection)
  rw [HostNode.survivorsOfAll_toSources] at hss
  obtain ⟨ns, hns, rfl⟩ := sublist_map_iff.1 hss
  refine ⟨ns, is, hns, hstems.nodup, hstems.mem_iff, ?_⟩
  have hpairs := forall₂_map_left_iff.1 hstems.stems
  refine (forall₂_iff_zip.2 ⟨hpairs.length_eq, ?_⟩)
  intro n i hni
  obtain ⟨t, ht, hstem⟩ := forall₂_zip hpairs hni
  have hmem := hns.subset (of_mem_zip hni).1
  have hkept := HostNode.isKept_of_mem_survivorsOfAll hmem
  obtain ⟨p, cs⟩ := n
  rw [HostNode.toSource] at hstem
  exact ⟨t, ht, HostProps.isSaneIn_of_stems hkept (hfinite _ hmem) hstem⟩

/-- A frame with notes, a background below a cut-out, and a group around one dot. -/
def workshop : List (HostNode Float) :=
  [.node { HostProps.plain "1" "frame" .frame ⟨0, 0, 100, 100, 0⟩ with
      opacity := 1.5, extra := [("note", .text "a"), ("parent", .null), ("grid", .bool true)] }
    [.node { HostProps.plain "2" "back" .rectangle ⟨0, 0, 100, 100, 0⟩ with opacity := -1 } [],
      .node { HostProps.plain "3" "cut" .booleanOperation ⟨10, 10, 20, 20, 0⟩ with
        effects := [.layerBlur ⟨4, false⟩, .layerBlur ⟨2, true⟩] } [],
      .node (.plain "4" "lone" .group ⟨50, 10, 10, 10, 0⟩)
        [.node (.plain "5" "dot" .ellipse ⟨0, 0, 10, 10, 0⟩) []]]]

theorem workshop_isSane :
    (∀ n ∈ HostNode.survivorsOfAll workshop, Scalar.isFinite n.props.opacity = true) ∧
    ∃ a, (normalizeInto default .empty workshop).1 = .ok a ∧
      ∃ ns is, ns <+ HostNode.survivorsOfAll workshop ∧ is.Nodup ∧
        (∀ i, i ∈ is ↔ a.Reachable i) ∧
        Forall₂ (fun n i => ∃ t, a.get? i = some t ∧ n.props.IsSaneIn t.element) ns is := by
  have hfinite : ∀ n ∈ HostNode.survivorsOfAll workshop,
      Scalar.isFinite n.props.opacity = true := by decide +kernel
  exact ⟨hfinite, _, rfl, normalize_isSane default .empty workshop hfinite rfl⟩

end Artboard
