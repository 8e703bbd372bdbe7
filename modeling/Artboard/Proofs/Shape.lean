import Artboard.Proofs.Unfolding

/-!
# How many children a node has

Children are dropped, unwrapped, adopted and promoted after their parent was looked at. In the end a
group still holds two nodes or more, a container holds one or more, and nothing else holds any.
-/

open List

namespace Artboard

namespace Kind

variable {α : Type}

def admits : Kind α → Nat → Prop
  | group, n => 2 ≤ n
  | container _, n => 1 ≤ n
  | _, n => n = 0

theorem admits_zero {k : Kind α} (h : k.isParent = false) : k.admits 0 := by
  cases k with
  | container l => cases h
  | group => cases h
  | _ => rfl

end Kind

namespace Figure

variable {α : Type} [Scalar α] {o : NormalizeOptions α}

theorem IsFit.admits {e : Element α} {cs : List (Figure α)} (h : IsFit o e cs) :
    e.kind.admits cs.length := by
  by_cases hparent : e.kind.isParent = true
  · obtain ⟨kind, props⟩ := e
    cases kind with
    | container l =>
      have hne : cs ≠ [] := h.1
      exact length_pos_iff.mpr hne
    | group =>
      have htwo : 2 ≤ cs.length := h.1
      exact htwo
    | _ => cases hparent
  · have hleaf : e.kind.isParent = false := by simpa using hparent
    have hnil : cs = [] := h.eq_nil hleaf
    rw [hnil]
    exact Kind.admits_zero hleaf

end Figure

namespace Arena

variable {α : Type} {a : Arena α}

theorem length_of_unfoldsAll : ∀ {is : List Nat} {fs : List (Figure α)}, a.UnfoldsAll is fs →
    is.length = fs.length
  | [], [], _ => rfl
  | _ :: _, _ :: _, h => by
    have ih := length_of_unfoldsAll h.2
    simp [ih]

theorem children_of_unfoldsAll {i : Nat} {s : Slot α} {fs : List (Figure α)}
    (hs : a.get? i = some s) (h : a.UnfoldsAll s.children fs) : a.children i = s.children := by
  have hlisted : a.childIndices i = s.children := by simp [childIndices, hs]
  unfold children
  rw [hlisted, filter_eq_self]
  intro c hc
  obtain ⟨f, _, hf⟩ := exists_unfolds_of_mem h hc
  obtain ⟨t, ht, _⟩ := unfolds_iff.mp hf
  simp [ht]

end Arena

/-- **Every node holds as many children as befit its kind,** and all of them are there. -/
theorem normalize_admits {α : Type} [Scalar α] [Circular α] (o : NormalizeOptions α) (c : Context)
    (selection : List (HostNode α)) {a : Arena α} (h : (normalizeInto o c selection).1 = .ok a) :
    ∀ i, a.Reachable i → ∃ s, a.get? i = some s ∧ a.children i = s.children ∧
      s.element.kind.admits s.children.length := by
  obtain ⟨_, rfl⟩ := normalizeSources_eq_ok_iff.mp h
  intro i hi
  have hunfolds := Arena.restructure_unfoldsAll o (HostNode.toSources selection)
  have hfit := Figure.isFit_figures o (HostNode.toSources selection)
  obtain ⟨f, hf, hfits⟩ := Arena.exists_unfolds_of_reachable hunfolds hfit hi
  obtain ⟨s, hs, he, hcs⟩ := Arena.unfolds_iff.mp hf
  have hadmits := (Figure.every_iff.mp hfits).1.admits
  refine ⟨s, hs, Arena.children_of_unfoldsAll hs hcs, ?_⟩
  rw [he, Arena.length_of_unfoldsAll hcs]
  exact hadmits

theorem Source.build_group {α : Type} [Scalar α] [Circular α] {o : NormalizeOptions α}
    {d : Draft α} {e : Element α} {children : List (Source α)} {l l' : Ledger α} {a b : Scene α}
    {rest : List (Scene α)} (hkept : d.isKept = true) (he : d.snapshot = some e)
    (hkind : d.kind = .group)
    (hchildren : buildAll o (some l.next) children { l with next := l.next + 1 } =
      (a :: b :: rest, l')) (ha : a.isPromotable = false) (parent : Option Nat) :
    build o parent (.node d children) l = (some (.node l.next e (a :: b :: rest)), l') := by
  have hback : Scene.background? (a :: b :: rest) (Scene.inference o (a :: b :: rest)) = none := by
    rcases Scene.inference_cases o (a :: b :: rest) with ⟨hnone, _⟩ | ⟨_, _, heq, _, hprom, _⟩
    · exact hnone
    · cases heq
      cases ha.symm.trans hprom
  unfold build
  simp only [hkept, he, hkind]
  change Scene.ofGroup o parent l.next e (buildAll o (some l.next) children _).1 _ = _
  rw [hchildren]
  simp only [Scene.ofGroup, hback]
  cases o.infer <;> rfl

/-- A group of two discs, one of them in a group of its own, and of a frame that is empty. -/
def cluster : List (HostNode Float) :=
  [.node (.plain "1" "cluster" .group ⟨10, 10, 90, 30, 0⟩)
    [.node (.plain "2" "disc" .ellipse ⟨0, 0, 30, 30, 0⟩) [],
      .node (.plain "3" "lone" .group ⟨40, 0, 30, 30, 0⟩)
        [.node (.plain "4" "dot" .ellipse ⟨10, 10, 10, 10, 0⟩) []],
      .node (.plain "5" "gap" .frame ⟨80, 0, 10, 10, 0⟩) []]]

theorem cluster_scenes : ∃ e a b c,
    (Source.buildAll default none (HostNode.toSources cluster) ⟨0, []⟩).1 =
      [.node 0 e [.node 1 a [], .node 3 b [], .node 4 c []]] ∧ e.kind = .group := by
  obtain ⟨d, kids, e, a, b, c, l, hcluster, hkept, he, hkind, hgroup, hkids, hdisc⟩ :
      ∃ d kids e a b c l, HostNode.toSources cluster = [.node d kids] ∧ d.isKept = true ∧
        d.snapshot = some e ∧ d.kind = .group ∧ e.kind = .group ∧
        Source.buildAll default (some 0) kids ⟨1, []⟩ =
          ([.node 1 a [], .node 3 b [], .node 4 c []], l) ∧ a.kind = .ellipse :=
    ⟨_, _, _, _, _, _, _, rfl, rfl, rfl, rfl, rfl, rfl, rfl⟩
  have hfirst : Scene.isPromotable (.node 1 a []) = false := by
    simp [Scene.isPromotable, Scene.element, hdisc]
  have hbuild := Source.build_group (l := ⟨0, []⟩) hkept he hkind hkids hfirst none
  refine ⟨e, a, b, c, ?_, hgroup⟩
  rw [hcluster]
  change (Source.build default none (.node d kids) ⟨0, []⟩).1.toList ++ [] = _
  rw [hbuild]
  rfl

theorem cluster_admits : ∃ a, (normalizeInto default .empty cluster).1 = .ok a ∧ a.Reachable 0 ∧
    ∃ s, a.get? 0 = some s ∧ s.element.kind = .group ∧ a.children 0 = [1, 3, 4] ∧
      s.element.kind.admits 3 := by
  have hholds := Arena.restructure_holds default (HostNode.toSources cluster)
  obtain ⟨e, _, _, _, hscenes, he⟩ := cluster_scenes
  rw [hscenes] at hholds
  have hgroup := hholds.get? mem_cons_self
  have hreach : (restructure default (HostNode.toSources cluster)).Reachable 0 :=
    .root (hholds.roots_eq ▸ mem_cons_self)
  obtain ⟨s, hs, hchildren, hadmits⟩ := normalize_admits default .empty cluster rfl 0 hreach
  cases hs.symm.trans hgroup
  exact ⟨_, rfl, hreach, _, hgroup, he, hchildren, hadmits⟩

end Artboard
