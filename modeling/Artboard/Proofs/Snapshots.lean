import Artboard.Proofs.Unfolding

/-!
# Elements taken as drafts

Every element of a run is visible, has an extent and carries nothing a snapshot would change, so it
is kept as a draft wherever its coordinates are finite. Where nothing is turned its box is the one a
snapshot computes, and it is its own snapshot.
-/

open List

namespace Artboard

namespace Geometry

variable {α : Type} [Scalar α] (g : Geometry α)

def isPlaced : Bool := Scalar.isFinite g.x && Scalar.isFinite g.y

def hasExtent : Bool :=
  Scalar.isFinite g.width && Scalar.isFinite g.height && !decide (g.width < 0) &&
    !decide (g.height < 0) && !(g.width == 0 && g.height == 0)

theorem isDegenerate_eq : g.isDegenerate = !(g.hasExtent && g.isPlaced) := by
  unfold isDegenerate hasExtent isPlaced
  cases Scalar.isFinite g.width <;> cases Scalar.isFinite g.height <;>
    cases Scalar.isFinite g.x <;> cases Scalar.isFinite g.y <;>
      cases decide (g.width < 0) <;> cases decide (g.height < 0) <;>
        cases (g.width == 0 && g.height == 0) <;> rfl

end Geometry

namespace Element

variable {α : Type} [Scalar α]

def IsNamed (e : Element α) : Prop := e.kind.isParent = true → e.props.id ≠ ""

/-- A snapshot has nothing to drop or to replace. -/
structure IsClean (e : Element α) : Prop where
  visible : e.props.visible = true
  hasExtent : e.props.geometry.hasExtent = true
  properties : (e.props.properties.filter fun p => !isBlocked p.1) = e.props.properties
  fills : e.kind = .boolean → e.props.fills = [Paint.placeholder]

/-- Not turned, and with the box of what is not turned. -/
structure IsUpright (e : Element α) : Prop where
  isRotated : e.props.geometry.isRotated = false
  bounds : e.props.bounds = e.props.geometry.box

variable {e : Element α}

theorem IsClean.congr {e' : Element α} (h : e.IsClean) (hp : e'.props = e.props)
    (hk : e'.kind ≠ .boolean) : e'.IsClean where
  visible := hp ▸ h.visible
  hasExtent := hp ▸ h.hasExtent
  properties := hp ▸ h.properties
  fills := fun hb => absurd hb hk

theorem IsClean.settle (h : e.IsClean) (f : Flow) : (e.settle f).IsClean := by
  rcases container_or_settle_eq f e with ⟨l, hl⟩ | he
  · rw [settle_of_container f hl]
    exact h.congr rfl nofun
  · rwa [he]

theorem IsUpright.congr {e' : Element α} (h : e.IsUpright) (hp : e'.props = e.props) :
    e'.IsUpright where
  isRotated := hp ▸ h.isRotated
  bounds := hp ▸ h.bounds

theorem IsUpright.shift (h : e.IsUpright) (dx dy : α) : (e.shift dx dy).IsUpright where
  isRotated := h.isRotated
  bounds := congrArg (Box.shift · dx dy) h.bounds

omit [Scalar α] in
theorem isSupported_sourceKind : e.sourceKind.isSupported = true := by
  unfold sourceKind
  split <;> rfl

omit [Scalar α] in
theorem hasChildren_sourceKind : e.sourceKind.hasChildren = e.kind.isParent := by
  unfold sourceKind
  split <;> rename_i hk <;> rw [hk] <;> rfl

omit [Scalar α] in
theorem lacksId_toDraft_iff :
    e.toDraft.lacksId = false ↔ e.IsNamed := by
  change (e.sourceKind.hasChildren && e.props.id.isEmpty) = false ↔ _
  rw [hasChildren_sourceKind, IsNamed]
  cases e.kind.isParent <;> simp

theorem isKept_toDraft (h : e.IsClean) : e.toDraft.isKept = e.props.geometry.isPlaced := by
  unfold Draft.isKept
  change (e.props.visible && e.sourceKind.isSupported && !e.props.geometry.isDegenerate) = _
  rw [h.visible, isSupported_sourceKind, Geometry.isDegenerate_eq, h.hasExtent]
  simp

end Element

namespace Draft

variable {α : Type} [Scalar α] {d : Draft α}

theorem of_isKept (h : d.isKept = true) :
    d.props.visible = true ∧ d.props.geometry.hasExtent = true := by
  simp only [isKept, Geometry.isDegenerate_eq, Bool.and_eq_true, Bool.not_not] at h
  exact ⟨h.1.1, h.2.1⟩

variable [Circular α] {e : Element α}

theorem isClean_of_props (h : d.isKept = true) (he : e.props = d.snapshotProps)
    (hk : e.kind ≠ .boolean) : e.IsClean := by
  obtain ⟨hv, hx⟩ := of_isKept h
  refine ⟨by rwa [he], by rwa [he], ?_, fun hb => absurd hb hk⟩
  rw [he]
  simp [snapshotProps, filter_filter]

theorem snapshot_cases (he : d.snapshot = some e) :
    (e.kind ≠ .boolean ∧ e.props = d.snapshotProps) ∨ e = .boolean d.snapshotProps := by
  unfold snapshot at he
  cases hk : d.kind with
  | unsupported name => simp [hk] at he
  | boolean =>
    simp only [hk, Option.some.injEq] at he
    exact .inr he.symm
  | _ =>
    simp only [hk, Option.some.injEq] at he
    subst he
    exact .inl ⟨nofun, rfl⟩

theorem isClean_snapshot (h : d.isKept = true) (he : d.snapshot = some e) : e.IsClean := by
  rcases snapshot_cases he with ⟨hk, hprops⟩ | rfl
  · exact isClean_of_props h hprops hk
  · obtain ⟨hv, hx⟩ := of_isKept h
    refine ⟨hv, hx, ?_, fun _ => rfl⟩
    simp [Element.boolean, snapshotProps, filter_filter]

theorem bounds_snapshotProps (h : d.props.geometry.isRotated = false) :
    d.snapshotProps.bounds = d.props.geometry.box := by
  simp [snapshotProps, Geometry.boundingBox, h]

theorem isUpright_snapshot (h : d.props.geometry.isRotated = false) (he : d.snapshot = some e) :
    e.IsUpright := by
  rcases snapshot_cases he with ⟨_, hprops⟩ | rfl
  · refine ⟨by rwa [hprops], ?_⟩
    rw [hprops, bounds_snapshotProps h]
    rfl
  · exact ⟨h, bounds_snapshotProps h⟩

end Draft

/-! ## Elements of a run -/

namespace Figure

variable {α : Type} [Scalar α] [Circular α] {o : NormalizeOptions α}

theorem isClean_invariant : Invariant o (fun _ => True) fun e _ => e.IsClean where
  shift := fun h _ _ => ⟨h.visible, h.hasExtent, h.properties, h.fills⟩
  settle := fun h f => h.settle f
  leaf := fun hkept _ _ he => Draft.isClean_snapshot hkept he
  emptied := fun hkept _ _ => Draft.isClean_of_props hkept rfl nofun
  container := fun hkept _ _ _ _ => Draft.isClean_of_props hkept rfl nofun
  promoted := fun h _ _ _ => h.congr rfl nofun
  group := fun hkept _ _ _ _ => Draft.isClean_of_props hkept rfl nofun

theorem isClean_figures (o : NormalizeOptions α) (ss : List (Source α)) :
    EveryOf (fun e _ => e.IsClean) (Source.figures o ss) :=
  isClean_invariant.everyOf_figures fun _ _ => trivial

theorem isUpright_invariant :
    Invariant o (fun d => d.props.geometry.isRotated = false) fun e _ => e.IsUpright where
  shift := fun h dx dy => h.shift dx dy
  settle := fun {e} {_} h f => h.congr (Element.props_settle f e)
  leaf := fun _ hd _ he => Draft.isUpright_snapshot hd he
  emptied := fun _ hd _ => ⟨hd, Draft.bounds_snapshotProps hd⟩
  container := fun _ hd _ _ _ => ⟨hd, Draft.bounds_snapshotProps hd⟩
  promoted := fun h _ _ _ => h.congr rfl
  group := fun _ hd _ _ _ => ⟨hd, Draft.bounds_snapshotProps hd⟩

theorem hasId_invariant : Invariant o (fun d => d.props.id ≠ "") fun e _ => e.props.id ≠ "" where
  shift := fun h _ _ => h
  settle := fun {e} {_} h f => by rwa [Element.props_settle]
  leaf := fun _ hd _ he => by
    rcases Draft.snapshot_cases he with ⟨_, hprops⟩ | rfl
    · rwa [hprops]
    · exact hd
  emptied := fun _ hd _ => hd
  container := fun _ hd _ _ _ => hd
  promoted := fun h _ _ _ => h
  group := fun _ hd _ _ _ => hd

theorem isNamed_figures (o : NormalizeOptions α) {ss : List (Source α)}
    (h : Source.EveryOf (fun d => d.props.id ≠ "") ss) :
    EveryOf (fun e _ => e.IsNamed) (Source.figures o ss) := by
  have hids := hasId_invariant.everyOf_figures (o := o) (Source.EveryOf.of_mem_survivors h)
  refine hids.imp fun e _ hid => ?_
  exact fun _ => hid

end Figure

namespace Element

variable {α : Type} [Scalar α] [Circular α]

theorem snapshotProps_toDraft {e : Element α} (h : e.IsClean) (hu : e.IsUpright) :
    e.toDraft.snapshotProps = e.props := by
  unfold Draft.snapshotProps
  change { e.props with
    properties := e.props.properties.filter fun p => !isBlocked p.1
    bounds := e.props.geometry.boundingBox } = e.props
  rw [h.properties, Geometry.boundingBox, hu.isRotated, ← hu.bounds]
  rfl

theorem snapshot_toDraft {e : Element α} (h : e.IsClean) (hu : e.IsUpright) :
    e.toDraft.snapshot = some e := by
  have hprops := snapshotProps_toDraft h hu
  obtain ⟨kind, props⟩ := e
  unfold Draft.snapshot
  rw [hprops]
  cases kind with
  | boolean =>
    have hfills : props.fills = [Paint.placeholder] := h.fills rfl
    simp only [toDraft, sourceKind, boolean, ← hfills]
  | _ => rfl

end Element

end Artboard
