import Artboard.Proofs.Figure

/-!
# What a rewrite can do

All there is to know of the step at a container and of the step at a group, guards included, and the
induction that follows a forest of sources to its figures. Properties of figures are proved by this
induction and never open the steps again.
-/

open List

namespace Artboard

namespace Figure

variable {α : Type} [Scalar α]

theorem inference_cases (o : NormalizeOptions α) (cs : List (Figure α)) :
    (background? cs (inference o cs) = none ∧ inOrder cs (inference o cs).order ~ cs) ∨
      ∃ b rest, cs = b :: rest ∧ rest ≠ [] ∧ b.isPromotable = true ∧
        background? cs (inference o cs) = some b ∧ inOrder cs (inference o cs).order ~ rest :=
  Inference.picks_cases o.tolerances item cs rfl

inductive ContainerStep (o : NormalizeOptions α) (declared : Bool) (e : Element α)
    (l : ContainerLayout α) (cs : List (Figure α)) : Figure α → Prop
  | empty (hcs : cs = []) : ContainerStep o declared e l cs (node { e with kind := .rectangle } [])
  | kept (hcs : cs ≠ []) (hfree : declared = false → o.infer = true →
      background? cs (inference o cs) = none ∧ (inference o cs).flow.isFlow = false) :
      ContainerStep o declared e l cs (settled e cs)
  | flowing (hcs : cs ≠ []) (hd : declared = false) (hi : o.infer = true)
      (hb : background? cs (inference o cs) = none) (hf : (inference o cs).flow.isFlow = true)
      (horder : inOrder cs (inference o cs).order ~ cs) :
      ContainerStep o declared e l cs
        (settled { e with kind := .container { l with
            flow := (inference o cs).flow, origin := .inferred,
            itemSpacing := (inference o cs).spacing, alignment := (inference o cs).alignment } }
          (inOrder cs (inference o cs).order))
  | promoted (b : Figure α) (rest : List (Figure α)) (hcs : cs = b :: rest) (hrest : rest ≠ [])
      (hd : declared = false) (hi : o.infer = true) (hprom : b.isPromotable = true)
      (hb : background? cs (inference o cs) = some b)
      (horder : inOrder cs (inference o cs).order ~ rest) :
      ContainerStep o declared e l cs
        (settled { e with kind := .container { l with origin := .inferred } }
          [promote cs (inference o cs) b])

inductive GroupStep (o : NormalizeOptions α) (e : Element α) (cs : List (Figure α)) :
    Option (Figure α) → Prop
  | empty (hcs : cs = []) : GroupStep o e cs none
  | single (f : Figure α) (hcs : cs = [f]) :
      GroupStep o e cs (some (f.shift e.props.geometry.x e.props.geometry.y))
  | promoted (b : Figure α) (rest : List (Figure α)) (hcs : cs = b :: rest) (hrest : rest ≠ [])
      (hi : o.infer = true) (hprom : b.isPromotable = true)
      (hb : background? cs (inference o cs) = some b)
      (horder : inOrder cs (inference o cs).order ~ rest) :
      GroupStep o e cs
        (some ((promote cs (inference o cs) b).shift e.props.geometry.x e.props.geometry.y))
  | kept (hcs : 2 ≤ cs.length)
      (hfree : o.infer = true → background? cs (inference o cs) = none) :
      GroupStep o e cs (some (node e cs))

theorem inferContainer_step (o : NormalizeOptions α) (e : Element α) (l : ContainerLayout α)
    {cs : List (Figure α)} (hcs : cs ≠ []) (hi : o.infer = true) :
    ContainerStep o false e l cs (inferContainer o e l cs) := by
  unfold inferContainer
  rcases inference_cases o cs with ⟨hb, horder⟩ | ⟨b, rest, rfl, hrest, hprom, hb, horder⟩
  · simp only [hb]
    split
    · rename_i hf
      exact .flowing hcs rfl hi hb hf horder
    · rename_i hf
      exact .kept hcs fun _ _ => ⟨hb, by simpa using hf⟩
  · simp only [hb]
    exact .promoted b rest rfl hrest rfl hi hprom hb horder

theorem ofContainer_step (o : NormalizeOptions α) (declared : Bool) {e : Element α}
    {l : ContainerLayout α} (he : e.kind = .container l) (cs : List (Figure α)) :
    ContainerStep o declared e l cs (ofContainer o declared e cs) := by
  unfold ofContainer
  cases cs with
  | nil => exact .empty rfl
  | cons c cs =>
    rw [he]
    cases declared with
    | true => exact .kept (by simp) nofun
    | false =>
      cases hi : o.infer with
      | true => exact inferContainer_step o e l (by simp) hi
      | false => exact .kept (by simp) fun _ h => absurd h (by rw [hi]; nofun)

theorem ofGroup_step (o : NormalizeOptions α) (e : Element α) (cs : List (Figure α)) :
    GroupStep o e cs (ofGroup o e cs) := by
  match cs with
  | [] => exact .empty rfl
  | [f] => exact .single f rfl
  | a :: b :: rest =>
    unfold ofGroup
    have htwo : 2 ≤ (a :: b :: rest).length := by simp
    cases hi : o.infer with
    | false => exact .kept htwo fun h => absurd h (by rw [hi]; nofun)
    | true =>
      rcases inference_cases o (a :: b :: rest) with
        ⟨hb, _⟩ | ⟨back, others, hcs, hrest, hprom, hb, horder⟩
      · simp only [hb]
        exact .kept htwo fun _ => hb
      · simp only [hb]
        exact .promoted back others hcs hrest hi hprom hb horder

end Figure

/-! ## Snapshots -/

namespace Draft

variable {α : Type} [Scalar α] [Circular α] {d : Draft α}

omit [Circular α] in
theorem isSupported_of_isKept (h : d.isKept = true) : d.kind.isSupported = true := by
  simp only [isKept, Bool.and_eq_true] at h
  exact h.1.2

theorem exists_snapshot (h : d.isKept = true) : ∃ e, d.snapshot = some e := by
  have hs := isSupported_of_isKept h
  unfold snapshot
  cases hk : d.kind with
  | unsupported name => rw [hk] at hs; cases hs
  | _ => exact ⟨_, rfl⟩

theorem snapshot_container (h : d.kind = .container) :
    d.snapshot = some ⟨.container (d.declared.getD (.freeForm d.clips)), d.snapshotProps⟩ := by
  simp [snapshot, h]

theorem snapshot_group (h : d.kind = .group) : d.snapshot = some ⟨.group, d.snapshotProps⟩ := by
  simp [snapshot, h]

theorem snapshot_text (h : d.kind = .text) :
    d.snapshot = some ⟨.text d.content, d.snapshotProps⟩ := by
  simp [snapshot, h]

theorem isParent_snapshot {e : Element α} (h : d.snapshot = some e) :
    e.kind.isParent = d.kind.hasChildren := by
  unfold snapshot at h
  cases hk : d.kind with
  | unsupported name => simp [hk] at h
  | _ =>
    simp only [hk, Option.some.injEq] at h
    subst h
    rfl

theorem geometry_snapshot {e : Element α} (h : d.snapshot = some e) :
    e.props.geometry = d.props.geometry := by
  unfold snapshot at h
  cases hk : d.kind with
  | unsupported name => simp [hk] at h
  | _ =>
    simp only [hk, Option.some.injEq] at h
    subst h
    rfl

end Draft

/-! ## The induction -/

namespace Source

variable {α : Type} [Scalar α] [Circular α] (o : NormalizeOptions α)

theorem figure?_of_not_isKept {d : Draft α} (h : d.isKept = false) (cs : List (Source α)) :
    figure? o (node d cs) = none := by
  simp [figure?, h]

theorem figure?_leaf {d : Draft α} {e : Element α} (h : d.isKept = true)
    (hk : d.kind.hasChildren = false) (he : d.snapshot = some e) (cs : List (Source α)) :
    figure? o (node d cs) = some (.node e []) := by
  simp only [figure?, h, he]
  cases hd : d.kind with
  | container => rw [hd] at hk; cases hk
  | group => rw [hd] at hk; cases hk
  | _ => rfl

theorem figure?_container {d : Draft α} {e : Element α} (h : d.isKept = true)
    (hk : d.kind = .container) (he : d.snapshot = some e) (cs : List (Source α)) :
    figure? o (node d cs) = some (.ofContainer o d.declared.isSome e (figures o cs)) := by
  simp only [figure?, h, he, hk]

theorem figure?_group {d : Draft α} {e : Element α} (h : d.isKept = true)
    (hk : d.kind = .group) (he : d.snapshot = some e) (cs : List (Source α)) :
    figure? o (node d cs) = Figure.ofGroup o e (figures o cs) := by
  simp only [figure?, h, he, hk]

/-- A relation between sources and figures holds of all sources if it is kept by every step. -/
structure Induction (P : List (Source α) → List (Figure α) → Prop) : Prop where
  nil : P [] []
  append : ∀ {s ss fs gs}, P [s] fs → P ss gs → P (s :: ss) (fs ++ gs)
  omitted : ∀ {d cs}, d.isKept = false → P [node d cs] []
  leaf : ∀ {d cs e}, d.isKept = true → d.kind.hasChildren = false → d.snapshot = some e →
    P [node d cs] [.node e []]
  container : ∀ {d cs f}, d.isKept = true → d.kind = .container → P cs (figures o cs) →
    Figure.ContainerStep o d.declared.isSome
      ⟨.container (d.declared.getD (.freeForm d.clips)), d.snapshotProps⟩
      (d.declared.getD (.freeForm d.clips)) (figures o cs) f →
    P [node d cs] [f]
  group : ∀ {d cs r}, d.isKept = true → d.kind = .group → P cs (figures o cs) →
    Figure.GroupStep o ⟨.group, d.snapshotProps⟩ (figures o cs) r → P [node d cs] r.toList

variable {o} {P : List (Source α) → List (Figure α) → Prop} (h : Induction o P)
include h

mutual

theorem Induction.one : ∀ s : Source α, P [s] (figure? o s).toList
  | node d cs => by
    cases hkept : d.isKept with
    | false =>
      rw [figure?_of_not_isKept o hkept]
      exact h.omitted hkept
    | true =>
      -- a survivor has a snapshot, so it is a container, a group or a leaf
      obtain ⟨e, he⟩ := Draft.exists_snapshot hkept
      by_cases hc : d.kind = .container
      · have hsnap := Draft.snapshot_container hc
        rw [figure?_container o hkept hc hsnap]
        exact h.container hkept hc (Induction.all cs) (Figure.ofContainer_step o _ rfl _)
      by_cases hg : d.kind = .group
      · rw [figure?_group o hkept hg (Draft.snapshot_group hg)]
        exact h.group hkept hg (Induction.all cs) (Figure.ofGroup_step o _ _)
      · have hleaf : d.kind.hasChildren = false := by
          unfold SourceKind.hasChildren
          split
          · exact absurd ‹_› hc
          · exact absurd ‹_› hg
          · rfl
        rw [figure?_leaf o hkept hleaf he]
        exact h.leaf hkept hleaf he

theorem Induction.all : ∀ ss : List (Source α), P ss (figures o ss)
  | [] => h.nil
  | s :: ss => h.append (Induction.one s) (Induction.all ss)

end

end Source

end Artboard
