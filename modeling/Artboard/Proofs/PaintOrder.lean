import Artboard.Proofs.Places

/-!
# Places and paint order of a run

In the arena of a run every survivor that is no group stands where it stood in its selection, if
places are summed up exactly along the parents. Where no container got a row or a column by inference
the walk meets these survivors in the order in which they were painted.
-/

open List

namespace Artboard

namespace Arena

variable {α M : Type} (a : Arena α)

def isUngrouped (i : Nat) : Bool :=
  match a.get? i with
  | some t => !t.element.kind.isGroup
  | none => false

/-- Where a slot is by its own place and those of all above it; what is in no slot is at `start`. -/
inductive StandsAt (within : M → Geometry α → M) (start : M) : Option Nat → M → Prop
  | outside : StandsAt within start none start
  | inside {i : Nat} {s : Slot α} {m : M} (hs : a.get? i = some s)
      (h : StandsAt within start s.parent m) :
      StandsAt within start (some i) (within m s.element.props.geometry)

end Arena

/-- The survivors that are no groups correspond one to one to the reachable slots that are no
groups, have become what these hold, and stand where these stand. -/
def Arena.RealizesInPlace [Circular Rat] (a : Arena Rat) (hollow : Source Rat → Prop)
    (ss : List (Source Rat)) : Prop :=
  ∃ is : List Nat, is.Nodup ∧
    (∀ i, i ∈ is ↔ a.Reachable i ∧ ∃ t, a.get? i = some t ∧ t.element.kind.isGroup = false) ∧
    Forall₂ (fun p i => ∃ t, a.get? i = some t ∧ p.2.Becomes hollow t.element ∧
      a.StandsAt Point.within ⟨0, 0⟩ (some i) p.1)
      (Source.placesOfAll Point.within ⟨0, 0⟩ ss) is

/-- The survivors that are no groups, one after the other, have become what the walk of the arena
meets, which is every reachable slot before what it lists. -/
def Arena.RealizesInOrder {α : Type} [Scalar α] [Circular α] (a : Arena α)
    (hollow : Source α → Prop) (ss : List (Source α)) : Prop :=
  a.Preorder a.roots a.walk ∧
    Forall₂ (fun s i => ∃ t, a.get? i = some t ∧ s.Becomes hollow t.element)
      (Source.ungrouped ss) (a.walk.filter a.isUngrouped)

namespace Arena

variable {α M : Type} {a : Arena α}

section
variable (within : M → Geometry α → M) (start : M)

mutual

theorem forall₂_places (p : Option Nat) (m : M) : ∀ (s : Scene α),
    (∀ {i t}, (i, t) ∈ Scene.slots p s → a.get? i = some t) → a.StandsAt within start p m →
      Forall₂ (fun q i => ∃ t, a.get? i = some t ∧ t.element = q.2 ∧
        a.StandsAt within start (some i) q.1)
        (s.figure.places within m) (s.numbers.filter a.isUngrouped)
  | .node i e cs, hget, hp => by
    have hi := hget mem_cons_self
    have hhere : a.StandsAt within start (some i) (within m e.props.geometry) := .inside hi hp
    have ih := forall₂_placesOfAll (some i) _ cs (fun hm => hget (mem_cons_of_mem _ hm)) hhere
    have hun : a.isUngrouped i = !e.kind.isGroup := by simp [isUngrouped, hi]
    rw [Scene.figure, Figure.places, Scene.numbers, filter_cons, hun]
    cases e.kind.isGroup with
    | true => exact ih
    | false => exact .cons ⟨_, hi, rfl, hhere⟩ ih

theorem forall₂_placesOfAll (p : Option Nat) (m : M) : ∀ (ss : List (Scene α)),
    (∀ {i t}, (i, t) ∈ Scene.slotsOfAll p ss → a.get? i = some t) → a.StandsAt within start p m →
      Forall₂ (fun q i => ∃ t, a.get? i = some t ∧ t.element = q.2 ∧
        a.StandsAt within start (some i) q.1)
        (Figure.placesOfAll within m (Scene.figures ss))
        ((Scene.numbersOfAll ss).filter a.isUngrouped)
  | [], _, _ => .nil
  | s :: ss, hget, hp => by
    rw [Scene.figures, Figure.placesOfAll, Scene.numbersOfAll, filter_append]
    exact rel_append (forall₂_places p m s (fun hm => hget (mem_append_left _ hm)) hp)
      (forall₂_placesOfAll p m ss (fun hm => hget (mem_append_right _ hm)) hp)

end

end

namespace Holds

variable {scenes : List (Scene α)} (h : a.Holds scenes)
include h

theorem mem_filter_walk_iff {i : Nat} : i ∈ a.walk.filter a.isUngrouped ↔
    a.Reachable i ∧ ∃ t, a.get? i = some t ∧ t.element.kind.isGroup = false := by
  rw [mem_filter, h.mem_walk_iff]
  refine and_congr_right fun _ => ?_
  unfold isUngrouped
  cases a.get? i <;> simp

theorem nodup_filter_walk : (a.walk.filter a.isUngrouped).Nodup := by
  rw [h.walk_eq]
  exact h.nodup.filter _

end Holds

variable [Scalar α] [Circular α]

theorem exists_standing (r : Reckoning α M) (o : NormalizeOptions α) (ss : List (Source α))
    (start : M) :
    ∃ is, Forall₂ (fun p i => ∃ t, (restructure o ss).get? i = some t ∧
        p.2.Becomes Source.IsHollow t.element ∧
        (restructure o ss).StandsAt r.within start (some i) p.1)
        (Source.placesOfAll r.within start ss) is ∧
      is ~ (restructure o ss).walk.filter (restructure o ss).isUngrouped ∧
      ((restructure o ss).Everywhere Element.IsUnsorted →
        is = (restructure o ss).walk.filter (restructure o ss).isUngrouped) := by
  have hholds := restructure_holds o ss
  obtain ⟨qs, hqs, hperm, hsteady⟩ := (Source.follows_induction r o).all ss start
  have hslots := forall₂_placesOfAll r.within start none start _ hholds.get? .outside
  rw [← hholds.walk_eq, Scene.figures_eq_map, Source.buildAll_figures] at hslots
  rw [everywhere_iff (restructure_unfoldsAll o ss)]
  refine exists_forall₂_comp (fun p q i hpq hqi => ?_) hqs hperm hsteady hslots
  obtain ⟨t, ht, he, hstands⟩ := hqi
  exact ⟨t, ht, he ▸ hpq.2, hpq.1 ▸ hstands⟩

end Arena

/-- **Nothing is moved.** -/
theorem normalize_realizesInPlace [Circular Rat] (o : NormalizeOptions Rat) (c : Context)
    (selection : List (HostNode Rat)) {a : Arena Rat}
    (h : (normalizeInto o c selection).1 = .ok a) :
    a.RealizesInPlace Source.IsHollow (HostNode.toSources selection) := by
  obtain ⟨_, rfl⟩ := normalizeSources_eq_ok_iff.mp h
  have hholds := Arena.restructure_holds o (HostNode.toSources selection)
  obtain ⟨is, his, hperm, _⟩ :=
    Arena.exists_standing .sum o (HostNode.toSources selection) ⟨0, 0⟩
  exact ⟨is, hperm.nodup_iff.mpr hholds.nodup_filter_walk,
    fun i => hperm.mem_iff.trans hholds.mem_filter_walk_iff, his⟩

def nest : List (HostNode Rat) :=
  [.node (.plain "1" "outer" .group ⟨10, 20, 100, 100, 0⟩)
    [.node (.plain "2" "inner" .group ⟨1 / 2, 1 / 3, 90, 90, 0⟩)
      [.node (.plain "3" "back" .rectangle ⟨2, 3, 80, 80, 0⟩) [],
        .node (.plain "4" "dot" .ellipse ⟨12, 13, 10, 10, 0⟩) [],
        .node (.plain "5" "lone" .group ⟨20, 40, 30, 30, 0⟩)
          [.node (.plain "6" "rule" .line ⟨1, 1, 20, 0, 0⟩) []]]]]

@[reducible] def Circular.still : Circular Rat := ⟨fun _ => 1, fun _ => 0, fun _ _ => 0⟩

theorem nest_realizesInPlace : ∃ a : Arena Rat,
    (@normalizeInto Rat _ Circular.still default .empty nest).1 = .ok a ∧
      @Arena.RealizesInPlace Circular.still a Source.IsHollow (HostNode.toSources nest) :=
  ⟨_, rfl, @normalize_realizesInPlace Circular.still default .empty nest _ rfl⟩

example : (Source.placesOfAll Point.within ⟨0, 0⟩ (HostNode.toSources nest)).map (·.1) =
    [⟨25 / 2, 70 / 3⟩, ⟨45 / 2, 100 / 3⟩, ⟨63 / 2, 184 / 3⟩] := by cbv

/-- **Paint order is kept where nothing was sorted.** -/
theorem normalize_realizesInOrder {α : Type} [Scalar α] [Circular α] (o : NormalizeOptions α)
    (c : Context) (selection : List (HostNode α)) {a : Arena α}
    (h : (normalizeInto o c selection).1 = .ok a) (hun : a.Everywhere Element.IsUnsorted) :
    a.RealizesInOrder Source.IsHollow (HostNode.toSources selection) := by
  obtain ⟨_, rfl⟩ := normalizeSources_eq_ok_iff.mp h
  have hholds := Arena.restructure_holds o (HostNode.toSources selection)
  obtain ⟨is, his, _, heq⟩ := Arena.exists_standing (.blind α) o (HostNode.toSources selection) ()
  rw [heq hun] at his
  refine ⟨hholds.preorder_walk, ?_⟩
  rw [← Source.map_placesOfAll (Reckoning.blind α).within _ (), forall₂_map_left_iff]
  exact his.imp fun _ _ ⟨t, ht, hb, _⟩ => ⟨t, ht, hb⟩

def stack : List (HostNode Float) :=
  [.node (.plain "1" "stack" .frame ⟨0, 0, 100, 100, 0⟩)
    [.node (.plain "2" "back" .rectangle ⟨0, 0, 90, 90, 0⟩) [],
      .node (.plain "3" "pair" .group ⟨10, 10, 40, 40, 0⟩)
        [.node (.plain "4" "disc" .ellipse ⟨0, 0, 20, 20, 0⟩) [],
          .node (.plain "5" "lone" .group ⟨10, 10, 20, 20, 0⟩)
            [.node (.plain "6" "star" .star ⟨5, 5, 10, 10, 0⟩) []]]]]

theorem stack_realizesInOrder : ∃ a : Arena Float, (normalizeInto default .empty stack).1 = .ok a ∧
    a.Everywhere Element.IsUnsorted ∧
      a.RealizesInOrder Source.IsHollow (HostNode.toSources stack) := by
  have hun : (restructure default (HostNode.toSources stack)).Everywhere Element.IsUnsorted := by
    rw [Arena.everywhere_iff (Arena.restructure_unfoldsAll _ _)]
    decide +kernel
  exact ⟨_, rfl, hun, normalize_realizesInOrder default .empty stack rfl hun⟩

end Artboard
