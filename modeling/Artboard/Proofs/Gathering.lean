import Artboard.Proofs.Invariant
import Artboard.Normal.Normalize

/-!
# What a run gathers

A run is ended by the first survivor that lacks the id it needs, and succeeds if there is none. It
warns of nothing if everything is kept and no snapshot has anything to warn of.
-/

open List

namespace Artboard

def Event.missing? {α : Type} : Event α → Option (MissingId α)
  | missing e => some e
  | _ => none

namespace Context

variable {α : Type}

theorem fst_gather {events : List (Event α)} : ∀ {c : Context},
    (c.gather events).1 = (events.findSome? Event.missing?).elim (.ok ()) .error := by
  induction events with
  | nil =>
    intro c
    rfl
  | cons e events ih =>
    intro c
    cases e with
    | warning m => exact ih
    | runs id rs => exact ih
    | missing x => rfl

theorem gather_ok_iff {events : List (Event α)} {c : Context} :
    (c.gather events).1 = .ok () ↔ events.findSome? Event.missing? = none := by
  rw [fst_gather]
  cases events.findSome? Event.missing? <;> simp

theorem gather_error_iff {events : List (Event α)} {c : Context} {e : MissingId α} :
    (c.gather events).1 = .error e ↔ events.findSome? Event.missing? = some e := by
  rw [fst_gather]
  cases events.findSome? Event.missing? <;> simp

theorem gather_append (events events' : List (Event α)) : ∀ c : Context,
    c.gather (events ++ events') = match c.gather events with
      | (.ok _, c') => c'.gather events'
      | (.error e, c') => (.error e, c') := by
  induction events with
  | nil =>
    intro c
    rfl
  | cons e events ih =>
    intro c
    cases e with
    | warning m => exact ih (c.warn m)
    | runs id rs => exact ih (c.setRuns id rs)
    | missing x => rfl

theorem warnings_gather {events : List (Event α)} (h : ∀ m, .warning m ∉ events) :
    ∀ {c : Context}, (c.gather events).2.warnings = c.warnings := by
  induction events with
  | nil =>
    intro c
    rfl
  | cons e events ih =>
    intro c
    cases e with
    | warning m => exact absurd mem_cons_self (h m)
    | runs id rs => exact ih fun m hm => h m (mem_cons_of_mem _ hm)
    | missing x => rfl

end Context

namespace Draft

variable {α : Type} (d : Draft α)

theorem findSome?_omissionEvents [Scalar α] :
    d.omissionEvents.findSome? Event.missing? = none := by
  unfold omissionEvents
  split
  · rfl
  · split <;> rfl

theorem findSome?_snapshotEvents : d.snapshotEvents.findSome? Event.missing? = none := by
  rw [snapshotEvents, findSome?_append, findSome?_map]
  have hwarnings : d.snapshotWarnings.findSome? (Event.missing? ∘ @Event.warning α) = none :=
    findSome?_eq_none_iff.mpr fun _ _ => rfl
  rw [hwarnings]
  split <;> rfl

theorem warning_notMem_snapshotEvents {d : Draft α} (h : d.snapshotWarnings = []) (m : String) :
    .warning m ∉ d.snapshotEvents := by
  unfold snapshotEvents
  rw [h]
  split <;> simp

end Draft

namespace Source

variable {α : Type} [Scalar α]

mutual

theorem findSome?_events : ∀ s : Source α, (events s).findSome? Event.missing? =
    ((survivors s).find? (·.draft.lacksId)).map (·.draft.missingId)
  | node d cs => by
    have ih := findSome?_eventsOfAll cs
    unfold events survivors
    cases d.isKept with
    | false => exact d.findSome?_omissionEvents
    | true =>
      by_cases hid : d.lacksId = true
      · simp [hid, draft, Event.missing?]
      · cases d.kind.hasChildren with
        | false => simp [hid, draft, d.findSome?_snapshotEvents]
        | true => simp [hid, draft, d.findSome?_snapshotEvents, ih]

theorem findSome?_eventsOfAll : ∀ ss : List (Source α), (eventsOfAll ss).findSome? Event.missing? =
    ((survivorsOfAll ss).find? (·.draft.lacksId)).map (·.draft.missingId)
  | [] => rfl
  | s :: ss => by
    rw [eventsOfAll, survivorsOfAll, findSome?_append, find?_append, findSome?_events s,
      findSome?_eventsOfAll ss, Option.map_or]

end

mutual

theorem warning_notMem_events : ∀ {s : Source α},
    Every (fun d => d.isKept = true ∧ d.snapshotWarnings = []) s → ∀ m, .warning m ∉ events s
  | node d cs, ⟨⟨hkept, hwarn⟩, hcs⟩, m => by
    have hrest := warning_notMem_eventsOfAll hcs m
    have hown := Draft.warning_notMem_snapshotEvents hwarn m
    rw [events, hkept]
    cases d.lacksId with
    | true => simp
    | false => cases d.kind.hasChildren <;> simp [hown, hrest]

theorem warning_notMem_eventsOfAll : ∀ {ss : List (Source α)},
    EveryOf (fun d => d.isKept = true ∧ d.snapshotWarnings = []) ss →
      ∀ m, .warning m ∉ eventsOfAll ss
  | [], _, _ => by simp [eventsOfAll]
  | s :: ss, ⟨hs, hss⟩, m => by
    simp [eventsOfAll, warning_notMem_events hs m, warning_notMem_eventsOfAll hss m]

end

theorem gather_eventsOfAll_ok_iff {c : Context} {ss : List (Source α)} :
    (c.gather (eventsOfAll ss)).1 = .ok () ↔ ∀ s ∈ survivorsOfAll ss, s.draft.lacksId = false := by
  rw [Context.gather_ok_iff, findSome?_eventsOfAll, Option.map_eq_none_iff, find?_eq_none]
  simp only [Bool.not_eq_true]

end Source

section
variable {α : Type} [Scalar α] [Circular α] {o : NormalizeOptions α} {c : Context}
variable {ss : List (Source α)} {a : Arena α}

/-- **A run succeeds if and only if what survives has the ids it needs,** and then gives the arena
of its sources. -/
theorem normalizeSources_eq_ok_iff : (normalizeSources o c ss).1 = .ok a ↔
    (∀ s ∈ Source.survivorsOfAll ss, s.draft.lacksId = false) ∧ a = restructure o ss := by
  rw [← Source.gather_eventsOfAll_ok_iff (c := c.reset)]
  unfold normalizeSources
  obtain ⟨outcome, context⟩ := c.reset.gather (Source.eventsOfAll ss)
  cases outcome with
  | error e => simp [Except.map]
  | ok u => simp [Except.map, eq_comm]

theorem normalizeSources_eq_error_iff {e : MissingId α} : (normalizeSources o c ss).1 = .error e ↔
    ∃ s, (Source.survivorsOfAll ss).find? (·.draft.lacksId) = some s ∧ s.draft.missingId = e := by
  have hgather : (c.reset.gather (Source.eventsOfAll ss)).1 = .error e ↔ _ :=
    Context.gather_error_iff
  rw [Source.findSome?_eventsOfAll, Option.map_eq_some_iff] at hgather
  rw [← hgather]
  unfold normalizeSources
  obtain ⟨outcome, context⟩ := c.reset.gather (Source.eventsOfAll ss)
  cases outcome <;> simp [Except.map]

end

end Artboard
