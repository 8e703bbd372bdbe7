import Artboard.Proofs.PaintOrder
import Artboard.Proofs.Trails
import Mathlib

/-!
# What survivors are painted with

Opacities along the parents of a slot multiply, rotations add up. A run that gives up a group or puts
nodes on a background changes both totals by what the group and the background had themselves, so
they are kept where these are opaque and stand upright.
-/

open List

namespace Artboard

namespace Arena

variable {α : Type}

/-- The tones of a slot and of all above it, outermost first. -/
inductive PaintedIn (a : Arena α) : Option Nat → List (Tone α) → Prop
  | outside : PaintedIn a none []
  | inside {i : Nat} {s : Slot α} {ts : List (Tone α)} (hs : a.get? i = some s)
      (h : a.PaintedIn s.parent ts) : PaintedIn a (some i) (ts ++ [s.element.props.tone])

variable {a : Arena α}

theorem PaintedIn.unique {p : Option Nat} {ts us : List (Tone α)} (h : a.PaintedIn p ts)
    (h' : a.PaintedIn p us) : ts = us := by
  induction h generalizing us with
  | outside =>
    cases h'
    rfl
  | inside hs _ ih =>
    cases h' with
    | inside hs' h' =>
      cases hs.symm.trans hs'
      rw [ih h']

mutual

theorem forall₂_lineages (p : Option Nat) (ts : List (Tone α)) : ∀ (s : Scene α),
    (∀ {i t}, (i, t) ∈ Scene.slots p s → a.get? i = some t) → a.PaintedIn p ts →
      Forall₂ (fun q i => ∃ t, a.get? i = some t ∧ t.element = q.2 ∧
        a.PaintedIn (some i) (ts ++ q.1)) s.figure.lineages (s.numbers.filter a.isUngrouped)
  | .node i e cs, hget, hp => by
    have hi := hget mem_cons_self
    have hhere : a.PaintedIn (some i) (ts ++ [e.props.tone]) := .inside hi hp
    have ih := forall₂_lineagesOfAll (some i) _ cs (fun hm => hget (mem_cons_of_mem _ hm)) hhere
    have hun : a.isUngrouped i = !e.kind.isGroup := by simp [isUngrouped, hi]
    have hbelow : Forall₂ (fun q i => ∃ t, a.get? i = some t ∧ t.element = q.2 ∧
        a.PaintedIn (some i) (ts ++ q.1)) (enclose e.props.tone (Figure.lineagesOfAll
          (Scene.figures cs))) ((Scene.numbersOfAll cs).filter a.isUngrouped) := by
      rw [enclose, forall₂_map_left_iff]
      refine ih.imp fun q j hq => ?_
      rwa [append_assoc] at hq
    rw [Scene.figure, Scene.numbers, filter_cons, hun]
    -- a group tints what is below it, and has no place among the ungrouped
    cases hg : e.kind.isGroup with
    | true =>
      rw [Figure.lineages_of_isGroup hg]
      exact hbelow
    | false =>
      rw [Figure.lineages_of_not_isGroup hg]
      exact .cons ⟨_, hi, rfl, hhere⟩ hbelow

theorem forall₂_lineagesOfAll (p : Option Nat) (ts : List (Tone α)) : ∀ (ss : List (Scene α)),
    (∀ {i t}, (i, t) ∈ Scene.slotsOfAll p ss → a.get? i = some t) → a.PaintedIn p ts →
      Forall₂ (fun q i => ∃ t, a.get? i = some t ∧ t.element = q.2 ∧
        a.PaintedIn (some i) (ts ++ q.1)) (Figure.lineagesOfAll (Scene.figures ss))
        ((Scene.numbersOfAll ss).filter a.isUngrouped)
  | [], _, _ => .nil
  | s :: ss, hget, hp => by
    rw [Scene.figures, Figure.lineagesOfAll, Scene.numbersOfAll, filter_append]
    exact rel_append (forall₂_lineages p ts s (fun hm => hget (mem_append_left _ hm)) hp)
      (forall₂_lineagesOfAll p ts ss (fun hm => hget (mem_append_right _ hm)) hp)

end

variable [Scalar α] [Circular α]

theorem exists_painted (o : NormalizeOptions α) (ss : List (Source α)) :
    ∃ is, Forall₂ (fun p i => ∃ t, (restructure o ss).get? i = some t ∧
        p.2.Becomes Source.IsHollow t.element ∧ (restructure o ss).PaintedIn (some i) p.1.after)
        (Source.trailsOfAll o ss) is ∧
      is ~ (restructure o ss).walk.filter (restructure o ss).isUngrouped := by
  have hholds := restructure_holds o ss
  obtain ⟨qs, hqs, hperm, _⟩ := ((Source.lineages_induction o).all ss).follows
  have hslots := forall₂_lineagesOfAll none [] _ hholds.get? .outside
  rw [← hholds.walk_eq, Scene.figures_eq_map, Source.buildAll_figures] at hslots
  obtain ⟨is, his, hperm'⟩ := perm_comp_forall₂ hperm hslots
  refine ⟨is, ?_, hperm'⟩
  rw [Source.lineagesAfter, forall₂_map_left_iff] at hqs
  refine forall₂_comp (fun p q i hpq hqi => ?_) hqs his
  obtain ⟨t, ht, he, hpainted⟩ := hqi
  have htones : p.1.after = q.1 := hpq.1
  exact ⟨t, ht, he ▸ hpq.2, htones ▸ hpainted⟩

/-- The survivors correspond one to one to the reachable slots that are no groups, have become what
these hold, and what is known of each is in the relation to the tones it is painted in. -/
def RealizesIn {β : Type} (a : Arena α) (R : β → List (Tone α) → Prop) (ps : List (β × Source α)) :
    Prop :=
  ∃ is : List Nat, is.Nodup ∧
    (∀ i, i ∈ is ↔ a.Reachable i ∧ ∃ t, a.get? i = some t ∧ t.element.kind.isGroup = false) ∧
    Forall₂ (fun p i => ∃ t ts, a.get? i = some t ∧ p.2.Becomes Source.IsHollow t.element ∧
      a.PaintedIn (some i) ts ∧ R p.1 ts) ps is

theorem RealizesIn.exists_lineage {β : Type} {R : β → List (Tone α) → Prop}
    {ps : List (β × Source α)} {o : NormalizeOptions α} {ss : List (Source α)}
    (h : (restructure o ss).RealizesIn R ps) {x : β} (hx : x ∈ ps.map (·.1)) :
    ∃ ts ∈ (Figure.lineagesOfAll (Source.figures o ss)).map (·.1), R x ts := by
  obtain ⟨is, _, hmem, hall⟩ := h
  obtain ⟨p, hp, rfl⟩ := mem_map.mp hx
  obtain ⟨i, hi, _, ts, _, _, hts, hR⟩ := exists_of_mem_forall₂ hall hp
  have hholds := restructure_holds o ss
  have hslots := forall₂_lineagesOfAll none [] _ hholds.get? .outside
  rw [← hholds.walk_eq, Scene.figures_eq_map, Source.buildAll_figures] at hslots
  have hwalk := hholds.mem_filter_walk_iff.mpr ((hmem i).mp hi)
  obtain ⟨q, hq, _, _, _, hus⟩ := exists_of_mem_forall₂ (Forall₂.flip hslots) hwalk
  exact ⟨ts, mem_map.mpr ⟨q, hq, hus.unique hts⟩, hR⟩

end Arena

/-! ## Totals -/

section
variable {α : Type} (value : α → Rat)

def Tone.opacityOf (ts : List (Tone α)) : Rat := (ts.map fun t => value t.opacity).prod

def Tone.rotationOf (ts : List (Tone α)) : Rat := (ts.map fun t => value t.rotation).sum

def Tone.SameOpacity (ts us : List (Tone α)) : Prop := opacityOf value us = opacityOf value ts

def Tone.SameRotation (ts us : List (Tone α)) : Prop := rotationOf value us = rotationOf value ts

def Tone.IsPlain (t : Tone α) : Prop := value t.opacity = 1 ∧ value t.rotation = 0

namespace Tone

variable {value} {ts : List (Tone α)} (h : ∀ t ∈ ts, t.IsPlain value)
include h

theorem opacityOf_of_isPlain : opacityOf value ts = 1 := by
  refine prod_eq_one fun x hx => ?_
  obtain ⟨t, ht, rfl⟩ := mem_map.mp hx
  exact (h t ht).1

theorem rotationOf_of_isPlain : rotationOf value ts = 0 := by
  refine sum_eq_zero fun x hx => ?_
  obtain ⟨t, ht, rfl⟩ := mem_map.mp hx
  exact (h t ht).2

end Tone

namespace Trail

/-- The tones are those of the trail after a run, and their totals those before it but for what was
discarded and what was added. -/
structure Balances (t : Trail α) (us : List (Tone α)) : Prop where
  eq_after : us = t.after
  opacity : Tone.opacityOf value us * Tone.opacityOf value (t.those .discarded) =
    Tone.opacityOf value t.before * Tone.opacityOf value (t.those .added)
  rotation : Tone.rotationOf value us + Tone.rotationOf value (t.those .discarded) =
    Tone.rotationOf value t.before + Tone.rotationOf value (t.those .added)
  same : (∀ x ∈ t.those .discarded ++ t.those .added, x.IsPlain value) →
    Tone.SameOpacity value t.before us ∧ Tone.SameRotation value t.before us

variable {value} (t : Trail α)

theorem balances_after : t.Balances value t.after := by
  have hopacity : Tone.opacityOf value t.after * Tone.opacityOf value (t.those .discarded) =
      Tone.opacityOf value t.before * Tone.opacityOf value (t.those .added) := by
    simp only [Tone.opacityOf, ← prod_append, ← map_append]
    exact (t.after_perm.map _).prod_eq
  have hrotation : Tone.rotationOf value t.after + Tone.rotationOf value (t.those .discarded) =
      Tone.rotationOf value t.before + Tone.rotationOf value (t.those .added) := by
    simp only [Tone.rotationOf, ← sum_append, ← map_append]
    exact (t.after_perm.map _).sum_eq
  refine ⟨rfl, hopacity, hrotation, fun hplain => ?_⟩
  rw [forall_mem_append] at hplain
  rw [Tone.opacityOf_of_isPlain hplain.1, Tone.opacityOf_of_isPlain hplain.2, mul_one,
    mul_one] at hopacity
  rw [Tone.rotationOf_of_isPlain hplain.1, Tone.rotationOf_of_isPlain hplain.2, add_zero,
    add_zero] at hrotation
  exact ⟨hopacity, hrotation⟩

end Trail

end

/-- **The tones of a survivor are those of its source but for groups given up and backgrounds got.** -/
theorem normalize_balances {α : Type} [Scalar α] [Circular α] (o : NormalizeOptions α) (c : Context)
    (selection : List (HostNode α)) {a : Arena α} (h : (normalizeInto o c selection).1 = .ok a)
    (value : α → Rat) :
    (Source.trailsOfAll o (HostNode.toSources selection)).map (Prod.map Trail.before id) =
        Source.lineagesOfAll (HostNode.toSources selection) ∧
      a.RealizesIn (Trail.Balances value) (Source.trailsOfAll o (HostNode.toSources selection)) := by
  obtain ⟨_, rfl⟩ := normalizeSources_eq_ok_iff.mp h
  have hholds := Arena.restructure_holds o (HostNode.toSources selection)
  obtain ⟨is, his, hperm⟩ := Arena.exists_painted o (HostNode.toSources selection)
  refine ⟨Source.map_before_trailsOfAll o _, is, hperm.nodup_iff.mpr hholds.nodup_filter_walk,
    fun i => hperm.mem_iff.trans hholds.mem_filter_walk_iff, his.imp fun p i hi => ?_⟩
  obtain ⟨t, ht, hb, hpainted⟩ := hi
  exact ⟨t, _, ht, hb, hpainted, p.1.balances_after⟩

def tint : List (HostNode Rat) :=
  [.node (.plain "1" "tint" .group ⟨0, 0, 90, 90, 0⟩)
    [.node { HostProps.plain "2" "back" .rectangle ⟨0, 0, 90, 90, 30⟩ with opacity := 1 / 2 } [],
      .node (.plain "3" "dot" .ellipse ⟨10, 10, 10, 10, 0⟩) []]]

theorem tint_balances : ∃ a : Arena Rat,
    (@normalizeInto Rat _ Circular.still default .empty tint).1 = .ok a ∧
      (@Source.trailsOfAll Rat _ Circular.still default (HostNode.toSources tint)).map (·.1) =
        [[(.discarded, ⟨1, 0⟩), (.kept, ⟨1 / 2, 30⟩)],
          [(.discarded, ⟨1, 0⟩), (.added, ⟨1 / 2, 30⟩), (.kept, ⟨1, 0⟩)]] ∧
      @Arena.RealizesIn Rat _ Circular.still _ a (Trail.Balances id)
        (@Source.trailsOfAll Rat _ Circular.still default (HostNode.toSources tint)) :=
  ⟨_, rfl, by cbv, (@normalize_balances Rat _ Circular.still default .empty tint _ rfl id).2⟩

def veil : List (HostNode Rat) :=
  [.node { HostProps.plain "1" "veil" .group ⟨0, 0, 10, 10, 30⟩ with opacity := 1 / 2 }
    [.node (.plain "2" "pane" .rectangle ⟨0, 0, 10, 10, 0⟩) []]]

/-- Neither total is always kept: what lies in a group that is given up fades and leans no more, and
what lies in front of a back fades and leans with it. -/
theorem not_realizesIn_sameOpacity_sameRotation :
    (∃ a : Arena Rat, (@normalizeInto Rat _ Circular.still default .empty veil).1 = .ok a ∧
      ¬@Arena.RealizesIn Rat _ Circular.still _ a (Tone.SameOpacity id)
        (Source.lineagesOfAll (HostNode.toSources veil)) ∧
      ¬@Arena.RealizesIn Rat _ Circular.still _ a (Tone.SameRotation id)
        (Source.lineagesOfAll (HostNode.toSources veil))) ∧
    ∃ a : Arena Rat, (@normalizeInto Rat _ Circular.still default .empty tint).1 = .ok a ∧
      ¬@Arena.RealizesIn Rat _ Circular.still _ a (Tone.SameOpacity id)
        (Source.lineagesOfAll (HostNode.toSources tint)) ∧
      ¬@Arena.RealizesIn Rat _ Circular.still _ a (Tone.SameRotation id)
        (Source.lineagesOfAll (HostNode.toSources tint)) := by
  -- a group that is given up takes its opacity and rotation with it
  have hveil : ∀ R, @Arena.RealizesIn Rat _ Circular.still _
      (@restructure Rat _ Circular.still default (HostNode.toSources veil)) R
        (Source.lineagesOfAll (HostNode.toSources veil)) →
          R [⟨1 / 2, 30⟩, ⟨1, 0⟩] [⟨1, 0⟩] := by
    intro R h
    have hafter : (Figure.lineagesOfAll (@Source.figures Rat _ Circular.still default
        (HostNode.toSources veil))).map (·.1) = [[⟨1, 0⟩]] := by cbv
    have hbefore : (Source.lineagesOfAll (HostNode.toSources veil)).map (·.1) =
        [[⟨1 / 2, 30⟩, ⟨1, 0⟩]] := by cbv
    obtain ⟨ts, hts, hR⟩ := @Arena.RealizesIn.exists_lineage Rat _ Circular.still _ _ _ _ _ h
      [⟨1 / 2, 30⟩, ⟨1, 0⟩] (by simp [hbefore])
    rw [hafter, mem_singleton] at hts
    rwa [hts] at hR
  -- a disc on a background fades and leans with the background
  have htint : ∀ R, @Arena.RealizesIn Rat _ Circular.still _
      (@restructure Rat _ Circular.still default (HostNode.toSources tint)) R
        (Source.lineagesOfAll (HostNode.toSources tint)) →
          R [⟨1, 0⟩, ⟨1, 0⟩] [⟨1 / 2, 30⟩] ∨
          R [⟨1, 0⟩, ⟨1, 0⟩] [⟨1 / 2, 30⟩, ⟨1, 0⟩] := by
    intro R h
    have hafter : (Figure.lineagesOfAll (@Source.figures Rat _ Circular.still default
        (HostNode.toSources tint))).map (·.1) = [[⟨1 / 2, 30⟩], [⟨1 / 2, 30⟩, ⟨1, 0⟩]] := by cbv
    have hbefore : (Source.lineagesOfAll (HostNode.toSources tint)).map (·.1) =
        [[⟨1, 0⟩, ⟨1 / 2, 30⟩], [⟨1, 0⟩, ⟨1, 0⟩]] := by cbv
    obtain ⟨ts, hts, hR⟩ := @Arena.RealizesIn.exists_lineage Rat _ Circular.still _ _ _ _ _ h
      [⟨1, 0⟩, ⟨1, 0⟩] (by simp [hbefore])
    rw [hafter, mem_pair] at hts
    rcases hts with rfl | rfl
    · exact .inl hR
    · exact .inr hR
  refine ⟨⟨_, rfl, fun h => ?_, fun h => ?_⟩, _, rfl, fun h => ?_, fun h => ?_⟩
  · exact absurd (hveil _ h) (by unfold Tone.SameOpacity; decide +kernel)
  · exact absurd (hveil _ h) (by unfold Tone.SameRotation; decide +kernel)
  · exact absurd (htint _ h) (by unfold Tone.SameOpacity; decide +kernel)
  · exact absurd (htint _ h) (by unfold Tone.SameRotation; decide +kernel)

end Artboard
