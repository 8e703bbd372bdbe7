import Artboard.Proofs.Snapshots

/-!
# Normalizing twice

A figure whose elements are their own snapshots, and whose children befit them, is what its source
is made into: nothing in it is dropped, unwrapped, promoted or settled any more. So normalizing the
result of a run gives it back.
-/

open List

namespace Artboard

namespace Figure

variable {α : Type} [Scalar α] {o : NormalizeOptions α}

/-! ## Figures at rest -/

theorem ofContainer_eq {e : Element α} {l : ContainerLayout α} {cs : List (Figure α)}
    (he : e.kind = .container l) (hfit : IsFit o e cs) : ofContainer o true e cs = node e cs := by
  obtain ⟨kind, props⟩ := e
  cases he
  obtain ⟨hne, hsettled⟩ := hfit
  have hmap : cs.map (mapElement (Element.settle l.flow)) = cs := by
    refine (map_congr_left fun c hc => ?_).trans (map_id cs)
    exact mapElement_eq_self (hsettled c hc)
  unfold ofContainer
  rw [if_neg (by simpa using hne)]
  exact congrArg (node _) hmap

theorem ofGroup_eq {e : Element α} {cs : List (Figure α)} (he : e.kind = .group)
    (hfit : IsFit o e cs) : ofGroup o e cs = some (node e cs) := by
  obtain ⟨kind, props⟩ := e
  cases he
  obtain ⟨htwo, hfree⟩ := hfit
  match cs with
  | [] => simp at htwo
  | [_] => simp at htwo
  | a :: b :: rest =>
    unfold ofGroup
    cases hi : o.infer with
    | false => rfl
    | true => simp only [hfree hi]

variable [Circular α]

def IsFixed (e : Element α) : Prop := e.toDraft.isKept = true ∧ e.toDraft.snapshot = some e

mutual

theorem figure?_toSource : ∀ {f : Figure α},
    Every (fun e cs => IsFit o e cs ∧ IsFixed e) f → Source.figure? o f.toSource = some f
  | node e cs, ⟨⟨hfit, hkept, hsnap⟩, hcs⟩ => by
    have ih := figures_toSources hcs
    rw [toSource]
    cases hk : e.kind with
    | container l =>
      have hkind : e.toDraft.kind = .container := by simp [Element.toDraft, Element.sourceKind, hk]
      have hdecl : e.toDraft.declared.isSome = true := by
        simp [Element.toDraft, hk, Kind.layout?]
      rw [Source.figure?_container o hkept hkind hsnap, ih, hdecl, ofContainer_eq hk hfit]
    | group =>
      have hkind : e.toDraft.kind = .group := by simp [Element.toDraft, Element.sourceKind, hk]
      rw [Source.figure?_group o hkept hkind hsnap, ih, ofGroup_eq hk hfit]
    | _ =>
      have hleaf : e.kind.isParent = false := by rw [hk]; rfl
      have hchildren : e.toDraft.kind.hasChildren = false :=
        Element.hasChildren_sourceKind.trans hleaf
      rw [Source.figure?_leaf o hkept hchildren hsnap, hfit.eq_nil hleaf]

theorem figures_toSources : ∀ {fs : List (Figure α)},
    EveryOf (fun e cs => IsFit o e cs ∧ IsFixed e) fs → Source.figures o (toSources fs) = fs
  | [], _ => rfl
  | f :: fs, ⟨hf, hfs⟩ => by
    rw [toSources, Source.figures, figure?_toSource hf, figures_toSources hfs]
    rfl

end

omit [Circular α] in
theorem IsFit.without_inference {e : Element α} {cs : List (Figure α)} (h : IsFit o e cs) :
    IsFit { o with infer := false } e cs := by
  obtain ⟨kind, props⟩ := e
  cases kind with
  | group => exact ⟨h.1, nofun⟩
  | _ => exact h

end Figure

section
variable {α : Type} [Scalar α] [Circular α] {o : NormalizeOptions α}

open Figure

theorem normalizeSources_toSources {fs : List (Figure α)} (c : Context)
    (hrest : EveryOf (fun e cs => IsFit o e cs ∧ IsFixed e) fs)
    (hid : EveryOf (fun e _ => e.IsNamed) fs) :
    (normalizeSources o c (toSources fs)).1 = .ok (restructure o (toSources fs)) ∧
      (normalizeSources o c (toSources fs)).2.warnings = [] := by
  constructor
  · rw [normalizeSources_eq_ok_iff]
    have hids : Source.EveryOf (fun d => d.lacksId = false) (toSources fs) :=
      everyOf_toSources (fun e _ h => Element.lacksId_toDraft_iff.mpr h) hid
    exact ⟨Source.EveryOf.of_mem_survivors hids, rfl⟩
  · have hwarn : Source.EveryOf (fun d => d.isKept = true ∧ d.snapshotWarnings = [])
        (toSources fs) := by
      refine everyOf_toSources (fun e _ h => ⟨h.2.1, ?_⟩) hrest
      unfold Draft.snapshotWarnings
      split <;> rfl
    exact Context.warnings_gather (Source.warning_notMem_eventsOfAll hwarn)

/-- **Normalizing twice is normalizing once.** -/
theorem renormalize_normalize (o : NormalizeOptions α) (c : Context) (selection : List (HostNode α))
    {a : Arena α} (h : (normalizeInto o c selection).1 = .ok a)
    (hupright : Source.EveryOf (fun d => d.props.geometry.isRotated = false)
      (HostNode.toSources selection))
    (hplaced : a.Everywhere fun e => e.props.geometry.isPlaced = true)
    (hid : a.Everywhere Element.IsNamed)
    (o' : NormalizeOptions α) (ho : o' = o ∨ o' = { o with infer := false }) (c' : Context) :
    ∃ b, (a.renormalizeInto o' c').1 = .ok b ∧ a.SameForest b ∧
      (a.renormalizeInto o' c').2.warnings = [] := by
  obtain ⟨_, rfl⟩ := normalizeSources_eq_ok_iff.mp h
  have hunfolds := Arena.restructure_unfoldsAll o (HostNode.toSources selection)
  have hsources := Arena.sources_restructure o (HostNode.toSources selection)
  have hfit : EveryOf (IsFit o) (Source.figures o (HostNode.toSources selection)) :=
    isFit_figures o _
  have hclean : EveryOf (fun e _ => e.IsClean) (Source.figures o (HostNode.toSources selection)) :=
    isClean_figures o _
  have hup : EveryOf (fun e _ => e.IsUpright) (Source.figures o (HostNode.toSources selection)) :=
    isUpright_invariant.everyOf_figures (Source.EveryOf.of_mem_survivors hupright)
  have hplace := (Arena.everywhere_iff hunfolds).mp hplaced
  have hrest : EveryOf (fun e cs => IsFit o' e cs ∧ IsFixed e)
      (Source.figures o (HostNode.toSources selection)) := by
    refine (hfit.and (hclean.and (hup.and hplace))).imp fun e cs ⟨hf, hc, hu, hp⟩ => ⟨?_, ?_, ?_⟩
    -- only groups depend on the options, and without inference they ask for less
    · rcases ho with rfl | rfl
      · exact hf
      · exact hf.without_inference
    · rw [Element.isKept_toDraft hc, hp]
    · exact Element.snapshot_toDraft hc hu
  obtain ⟨hok, hwarnings⟩ :=
    normalizeSources_toSources c' hrest ((Arena.everywhere_iff hunfolds).mp hid)
  unfold Arena.renormalizeInto
  rw [hsources]
  refine ⟨_, hok, ⟨_, hunfolds, ?_⟩, hwarnings⟩
  have hagain := Arena.restructure_unfoldsAll o'
    (toSources (Source.figures o (HostNode.toSources selection)))
  rwa [figures_toSources hrest] at hagain

end

/-- A group of a back and, in a group of its own, what lies on it. -/
def badge : List (HostNode Float) :=
  [.node (.plain "1" "badge" .group ⟨10, 10, 50, 50, 0⟩)
    [.node (.plain "2" "back" .rectangle ⟨0, 0, 50, 50, 0⟩) [],
      .node (.plain "3" "lone" .group ⟨5, 5, 10, 10, 0⟩)
        [.node (.plain "4" "dot" .ellipse ⟨0, 0, 10, 10, 0⟩) []]]]

theorem badge_renormalizes : ∃ a b, (normalizeInto default .empty badge).1 = .ok a ∧
    (a.renormalizeInto default .empty).1 = .ok b ∧ a.SameForest b := by
  have hids : Source.EveryOf (fun d => d.props.id ≠ "") (HostNode.toSources badge) := by
    have hne : "1" ≠ "" ∧ "2" ≠ "" ∧ "3" ≠ "" ∧ "4" ≠ "" := by decide
    exact ⟨⟨hne.1, ⟨hne.2.1, trivial⟩, ⟨hne.2.2.1, ⟨hne.2.2.2, trivial⟩, trivial⟩, trivial⟩, trivial⟩
  have heverywhere {Q : Element Float → Prop} := Arena.everywhere_iff (Q := Q)
    (Arena.restructure_unfoldsAll default (HostNode.toSources badge))
  obtain ⟨b, hb, hsame, _⟩ := renormalize_normalize default .empty badge rfl
    ⟨⟨rfl, ⟨rfl, trivial⟩, ⟨rfl, ⟨rfl, trivial⟩, trivial⟩, trivial⟩, trivial⟩
    (heverywhere.mpr ⟨⟨rfl, ⟨rfl, trivial⟩, trivial⟩, trivial⟩)
    (heverywhere.mpr (Figure.isNamed_figures default hids)) default (.inl rfl) .empty
  exact ⟨_, b, rfl, hb, hsame⟩

end Artboard
