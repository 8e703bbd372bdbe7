import Artboard.Proofs.Gathering

/-!
# Selections without what leaves nothing behind

Taking out of a selection the nodes that a run leaves out, and the children it does not look at,
changes neither the arena of the run, down to its last number, nor the runs it gathers, nor the
error that ends it. Only warnings get lost.
-/

open List

namespace Artboard

namespace HostProps

variable {α : Type} [Scalar α]

def isExcluded (p : HostProps α) : Bool :=
  !p.visible || !p.kind.toSource.isSupported || p.geometry.isDegenerate

theorem isKept_toDraft (p : HostProps α) : p.toDraft.isKept = !p.isExcluded := by
  change (p.visible && p.kind.toSource.isSupported && !p.geometry.isDegenerate) = _
  simp [isExcluded]

end HostProps

namespace HostNode

variable {α : Type} [Scalar α]

mutual

/-- A node without what is excluded below it, and without children unless it is a container or a
group; nothing if it is excluded itself. -/
def prune : HostNode α → List (HostNode α)
  | node p cs =>
    if p.isExcluded then []
    else [node p (if p.kind.toSource.hasChildren then pruneAll cs else [])]

def pruneAll : List (HostNode α) → List (HostNode α)
  | [] => []
  | n :: ns => prune n ++ pruneAll ns

end

end HostNode

/-! ## Events -/

namespace Event

variable {α : Type}

inductive Fewer : List (Event α) → List (Event α) → Prop
  | nil : Fewer [] []
  | drop {es es' : List (Event α)} (m : String) (h : Fewer es es') : Fewer es (.warning m :: es')
  | keep {es es' : List (Event α)} (e : Event α) (h : Fewer es es') : Fewer (e :: es) (e :: es')

namespace Fewer

variable {es es' fs fs' : List (Event α)}

theorem refl : ∀ es : List (Event α), Fewer es es
  | [] => .nil
  | e :: es => .keep e (refl es)

theorem append (h : Fewer es es') (h' : Fewer fs fs') : Fewer (es ++ fs) (es' ++ fs') := by
  induction h with
  | nil => exact h'
  | drop m _ ih => exact .drop m ih
  | keep e _ ih => exact .keep e ih

end Fewer

end Event

namespace Context

/-- The same runs, and no warning that is not among those of the other. -/
structure Below (c d : Context) : Prop where
  runs_eq : c.runs = d.runs
  warnings_subset : c.warnings ⊆ d.warnings

theorem mem_warn (c : Context) (m n : String) :
    n ∈ (c.warn m).warnings ↔ n ∈ c.warnings ∨ n = m := by
  by_cases hm : m ∈ c.warnings
  · have hn : n = m → n ∈ c.warnings := fun h => h ▸ hm
    simpa [warn, hm] using hn
  · simp [warn, hm]

namespace Below

variable {c d : Context}

theorem refl (c : Context) : c.Below c := ⟨rfl, Subset.refl _⟩

theorem warn_right (h : c.Below d) (m : String) : c.Below (d.warn m) where
  runs_eq := h.runs_eq.trans (d.runs_warn m).symm
  warnings_subset := fun _ hn => (mem_warn d m _).mpr (.inl (h.warnings_subset hn))

theorem warn (h : c.Below d) (m : String) : (c.warn m).Below (d.warn m) where
  runs_eq := by rw [runs_warn, runs_warn, h.runs_eq]
  warnings_subset := by
    intro n hn
    rw [mem_warn] at hn ⊢
    exact hn.imp_left fun hc => h.warnings_subset hc

theorem setRuns (h : c.Below d) (id : String) (rs : List TextRun) :
    (c.setRuns id rs).Below (d.setRuns id rs) where
  runs_eq := congrArg (setIn id rs) h.runs_eq
  warnings_subset := h.warnings_subset

end Below

theorem gather_fewer {α : Type} {es es' : List (Event α)} (h : Event.Fewer es es') :
    ∀ {c d : Context}, c.Below d →
      (c.gather es).1 = (d.gather es').1 ∧ (c.gather es).2.Below (d.gather es').2 := by
  induction h with
  | nil =>
    intro c d hcd
    exact ⟨rfl, hcd⟩
  | drop m _ ih =>
    intro c d hcd
    exact ih (hcd.warn_right m)
  | keep e _ ih =>
    intro c d hcd
    cases e with
    | warning m => exact ih (hcd.warn m)
    | runs id rs => exact ih (hcd.setRuns id rs)
    | missing x => exact ⟨rfl, hcd⟩

end Context

/-! ## Pruned selections -/

namespace Draft

variable {α : Type} [Scalar α] (d : Draft α)

theorem fewer_omissionEvents : Event.Fewer [] d.omissionEvents := by
  unfold omissionEvents
  split
  · exact .nil
  · split <;> exact .drop _ .nil

end Draft

namespace HostNode

open Source

variable {α : Type} [Scalar α]

mutual

theorem fewer_prune : ∀ n : HostNode α,
    Event.Fewer (eventsOfAll (toSources n.prune)) n.toSource.events
  | node p cs => by
    have ih := fewer_pruneAll cs
    have hkept := p.isKept_toDraft
    rw [prune, toSource, events]
    cases hex : p.isExcluded with
    | true =>
      rw [hex] at hkept
      simp only [hkept, if_true, Bool.not_true, Bool.not_false, toSources, eventsOfAll]
      exact p.toDraft.fewer_omissionEvents
    | false =>
      rw [hex] at hkept
      have hkind : p.toDraft.kind = p.kind.toSource := rfl
      simp only [hkept, hkind, toSources, toSource, eventsOfAll, events, append_nil, Bool.not_true,
        Bool.not_false, Bool.false_eq_true, if_false]
      -- a missing id ends the run before the children are visited
      cases p.toDraft.lacksId with
      | true => exact .refl _
      | false =>
        refine (Event.Fewer.refl _).append ?_
        cases p.kind.toSource.hasChildren with
        | true => exact ih
        | false => exact .nil

theorem fewer_pruneAll : ∀ ns : List (HostNode α),
    Event.Fewer (eventsOfAll (toSources (pruneAll ns))) (eventsOfAll (toSources ns))
  | [] => .nil
  | n :: ns => by
    rw [pruneAll, toSources_append, eventsOfAll_append, toSources, eventsOfAll]
    exact (fewer_prune n).append (fewer_pruneAll ns)

end

end HostNode

namespace Source

variable {α : Type} [Scalar α] [Circular α] (o : NormalizeOptions α)

theorem buildAll_append (parent : Option Nat) (ss ts : List (Source α)) :
    buildAll o parent (ss ++ ts) = do
      let first ← buildAll o parent ss
      let others ← buildAll o parent ts
      return first ++ others := by
  induction ss with
  | nil => simp [buildAll]
  | cons s ss ih => simp only [cons_append, buildAll, ih, bind_assoc, pure_bind, append_assoc]

theorem build_congr (parent : Option Nat) {d : Draft α} {cs cs' : List (Source α)}
    (h : d.kind.hasChildren = true → ∀ i, buildAll o (some i) cs = buildAll o (some i) cs') :
    build o parent (node d cs) = build o parent (node d cs') := by
  unfold build
  cases d.isKept with
  | false => rfl
  | true =>
    cases d.snapshot with
    | none => rfl
    | some e =>
      cases hk : d.kind with
      | container => simp only [h (by rw [hk]; rfl)]
      | group => simp only [h (by rw [hk]; rfl)]
      | _ => rfl

end Source

namespace HostNode

open Source

variable {α : Type} [Scalar α] [Circular α] (o : NormalizeOptions α)

mutual

theorem build_prune (parent : Option Nat) : ∀ n : HostNode α,
    buildAll o parent (toSources n.prune) = do
      let made ← build o parent n.toSource
      return made.toList
  | node p cs => by
    have ih := fun i => buildAll_pruneAll (some i) cs
    have hkept := p.isKept_toDraft
    rw [prune, toSource]
    cases hex : p.isExcluded with
    | true =>
      rw [hex] at hkept
      simp [toSources, buildAll, build, hkept]
    | false =>
      -- the children of a leaf are never built
      have hsame : build o parent (.node p.toDraft
          (toSources (if p.kind.toSource.hasChildren then pruneAll cs else []))) =
            build o parent (.node p.toDraft (toSources cs)) := by
        refine build_congr o parent fun hk i => ?_
        have hchildren : p.kind.toSource.hasChildren = true := hk
        rw [if_pos hchildren, ih]
      simp [toSources, toSource, buildAll, hsame]

theorem buildAll_pruneAll (parent : Option Nat) : ∀ ns : List (HostNode α),
    buildAll o parent (toSources (pruneAll ns)) = buildAll o parent (toSources ns)
  | [] => rfl
  | n :: ns => by
    rw [pruneAll, toSources_append, buildAll_append, build_prune parent n, buildAll_pruneAll parent ns]
    simp [toSources, buildAll]

end

end HostNode

section
variable {α : Type} [Scalar α] [Circular α]

theorem restructure_pruneAll (o : NormalizeOptions α) (selection : List (HostNode α)) :
    restructure o (HostNode.toSources (HostNode.pruneAll selection)) =
      restructure o (HostNode.toSources selection) := by
  simp only [restructure, HostNode.buildAll_pruneAll]

/-- **What is left out has no influence but for what it makes a run warn of.** -/
theorem normalize_pruneAll (o : NormalizeOptions α) (c d : Context)
    (selection : List (HostNode α)) :
    (normalizeInto o c (HostNode.pruneAll selection)).1 = (normalizeInto o d selection).1 ∧
      (normalizeInto o c (HostNode.pruneAll selection)).2.runs =
        (normalizeInto o d selection).2.runs ∧
      (normalizeInto o c (HostNode.pruneAll selection)).2.warnings ⊆
        (normalizeInto o d selection).2.warnings := by
  have hgather := Context.gather_fewer (HostNode.fewer_pruneAll selection) (.refl .empty)
  obtain ⟨houtcome, hbelow⟩ := hgather
  refine ⟨?_, hbelow.runs_eq, hbelow.warnings_subset⟩
  change Except.map _ (Context.empty.gather _).1 = Except.map _ (Context.empty.gather _).1
  rw [houtcome, restructure_pruneAll]

end

end Artboard
