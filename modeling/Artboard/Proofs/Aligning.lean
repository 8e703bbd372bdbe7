import Artboard.Layout.Inference
import Artboard.Number.Decimal
import Mathlib.Data.List.Basic

/-!
# Children that line up

All children are compared with the one painted first, so an alignment depends on which child that is,
and on nothing else of the order. It plays no part either where each child would be as good a measure
as any other.
-/

open List

namespace Artboard

namespace Alignment

variable {α : Type} [Scalar α]

/-- The line of a box that an alignment brings together, on the axis across the flow. A box has no
baseline. -/
def line (axis : Axis) : Alignment → Box α → α
  | .start, b | .baseline, b => b.start axis
  | .center, b => b.start axis + b.extent axis / 2
  | .stop, b => b.stop axis

/-! ## The first line that passes a test -/

/-- The first of start, center and stop that passes; start if none does. -/
def firstOf (p : Alignment → Prop) [DecidablePred p] : Alignment :=
  if p .start then .start else if p .center then .center else if p .stop then .stop else .start

section
variable {p q : Alignment → Prop} [DecidablePred p] [DecidablePred q]

theorem firstOf_congr (h : ∀ a, p a ↔ q a) : firstOf p = firstOf q := by
  simp only [firstOf, h]

theorem firstOf_eq_start_iff : firstOf p = .start ↔ p .start ∨ ¬p .center ∧ ¬p .stop := by
  unfold firstOf
  split_ifs <;> simp [*]

theorem firstOf_eq_center_iff : firstOf p = .center ↔ ¬p .start ∧ p .center := by
  unfold firstOf
  split_ifs <;> simp [*]

theorem firstOf_eq_stop_iff : firstOf p = .stop ↔ ¬p .start ∧ ¬p .center ∧ p .stop := by
  unfold firstOf
  split_ifs <;> simp [*]

theorem firstOf_ne_baseline : firstOf p ≠ .baseline := by
  unfold firstOf
  split_ifs <;> simp

end

theorem firstOf_forall {β : Type} {p : β → Alignment → Prop} [∀ b, DecidablePred (p b)]
    {l : List β} {a : Alignment} (hl : l ≠ []) (h : ∀ b ∈ l, firstOf (p b) = a) :
    firstOf (fun e => ∀ b ∈ l, p b e) = a := by
  obtain ⟨c, hc⟩ := exists_mem_of_ne_nil l hl
  cases a with
  | start =>
    simp only [firstOf_eq_start_iff] at h ⊢
    -- a box that fails at the start has it for its first line only by failing everywhere
    by_cases hstart : ∀ b ∈ l, p b .start
    · exact .inl hstart
    · simp only [not_forall] at hstart
      obtain ⟨b, hb, hfails⟩ := hstart
      obtain ⟨hcenter, hstop⟩ := (h b hb).resolve_left hfails
      exact .inr ⟨fun hall => hcenter (hall b hb), fun hall => hstop (hall b hb)⟩
  | center =>
    simp only [firstOf_eq_center_iff] at h ⊢
    exact ⟨fun hall => (h c hc).1 (hall c hc), fun b hb => (h b hb).2⟩
  | stop =>
    simp only [firstOf_eq_stop_iff] at h ⊢
    exact ⟨fun hall => (h c hc).1 (hall c hc), fun hall => (h c hc).2.1 (hall c hc),
      fun b hb => (h b hb).2.2⟩
  | baseline => exact absurd (h c hc) firstOf_ne_baseline

end Alignment

namespace Inference

variable {α : Type} [Scalar α] (t : Tolerances α)

theorem alignmentOf_eq_firstOf {flow : Flow} {main : Axis} (h : flow.mainAxis = some main)
    (boxes : List (Box α)) : alignmentOf t flow boxes =
      Alignment.firstOf fun a => linesUp t.alignment (boxes.map (a.line main.cross)) = true := by
  rw [alignmentOf, h]
  rfl

theorem alignmentOf_of_free {flow : Flow} (h : flow.mainAxis = none) (boxes : List (Box α)) :
    alignmentOf t flow boxes = .start := by
  rw [alignmentOf, h]

/-! ## One box against all -/

def AgreeWith (axis : Axis) (boxes : List (Box α)) (b : Box α) (a : Alignment) : Prop :=
  ∀ c ∈ boxes, Scalar.magnitude (a.line axis c - a.line axis b) ≤ t.alignment

def Agree (axis : Axis) (boxes : List (Box α)) (a : Alignment) : Prop :=
  ∀ b ∈ boxes, AgreeWith t axis boxes b a

instance (axis : Axis) (boxes : List (Box α)) (b : Box α) :
    DecidablePred (AgreeWith t axis boxes b) :=
  fun _ => inferInstanceAs (Decidable (∀ c ∈ boxes, _))

instance (axis : Axis) (boxes : List (Box α)) : DecidablePred (Agree t axis boxes) :=
  fun _ => inferInstanceAs (Decidable (∀ b ∈ boxes, _))

/-- The alignment of boxes that are all measured by one. -/
def measuredBy (axis : Axis) (boxes : List (Box α)) (b : Box α) : Alignment :=
  Alignment.firstOf (AgreeWith t axis boxes b)

def sharedAlignment (axis : Axis) (boxes : List (Box α)) : Alignment :=
  Alignment.firstOf (Agree t axis boxes)

variable {t} {flow : Flow} {main : Axis} {boxes boxes' : List (Box α)}

theorem alignmentOf_of_perm (h : flow.mainAxis = some main) {b : Box α} {rest : List (Box α)}
    (hperm : b :: rest ~ boxes) :
    alignmentOf t flow (b :: rest) = measuredBy t main.cross boxes b := by
  rw [alignmentOf_eq_firstOf t h]
  refine Alignment.firstOf_congr fun a => ?_
  rw [map_cons, linesUp, ← map_cons, all_eq_true, forall_mem_map]
  simp only [decide_eq_true_eq, hperm.mem_iff, AgreeWith]

theorem alignmentOf_of_head? (hperm : boxes' ~ boxes) (hhead : boxes'.head? = boxes.head?) :
    alignmentOf t flow boxes' = alignmentOf t flow boxes := by
  cases h : flow.mainAxis with
  | none => rw [alignmentOf_of_free t h, alignmentOf_of_free t h]
  | some main =>
    match boxes', boxes with
    | [], [] => rfl
    | [], _ :: _ | _ :: _, [] => cases hhead
    | b :: rest', _ :: rest =>
      cases hhead
      rw [alignmentOf_of_perm h hperm, alignmentOf_of_perm h (Perm.refl _)]

theorem exists_cons_perm {β : Type} {l : List β} {b : β} (hb : b ∈ l) : ∃ rest, b :: rest ~ l := by
  obtain ⟨front, back, rfl⟩ := append_of_mem hb
  exact ⟨front ++ back, perm_middle.symm⟩

theorem measuredBy_eq_of_perm (h : flow.mainAxis = some main)
    (hsame : ∀ boxes', boxes' ~ boxes → alignmentOf t flow boxes' = alignmentOf t flow boxes) :
    ∀ b ∈ boxes, measuredBy t main.cross boxes b = sharedAlignment t main.cross boxes := by
  have hmeasured : ∀ b ∈ boxes, measuredBy t main.cross boxes b = alignmentOf t flow boxes := by
    intro b hb
    obtain ⟨rest, hperm⟩ := exists_cons_perm hb
    rw [← alignmentOf_of_perm h hperm]
    exact hsame _ hperm
  intro b hb
  rw [hmeasured b hb]
  exact (Alignment.firstOf_forall (ne_nil_of_mem hb) hmeasured).symm

theorem alignmentOf_eq_sharedAlignment (h : flow.mainAxis = some main)
    (hall : ∀ b ∈ boxes, measuredBy t main.cross boxes b = sharedAlignment t main.cross boxes)
    (hne : boxes ≠ []) (hperm : boxes' ~ boxes) :
    alignmentOf t flow boxes' = sharedAlignment t main.cross boxes := by
  cases boxes' with
  | nil => exact absurd hperm.nil_eq.symm hne
  | cons b rest =>
    rw [alignmentOf_of_perm h hperm]
    exact hall b (hperm.mem_iff.mp mem_cons_self)

/-- **Children are measured by the one painted first.** The order of the others plays no part, and
that of all children exactly if each of them gives the alignment on which any two agree. -/
theorem alignmentOf_perm_iff (t : Tolerances α) (flow : Flow) (boxes : List (Box α)) :
    (∀ boxes', boxes' ~ boxes → boxes'.head? = boxes.head? →
        alignmentOf t flow boxes' = alignmentOf t flow boxes) ∧
      ((∀ boxes', boxes' ~ boxes → alignmentOf t flow boxes' = alignmentOf t flow boxes) ↔
        ∀ main, flow.mainAxis = some main → ∀ b ∈ boxes,
          measuredBy t main.cross boxes b = sharedAlignment t main.cross boxes) := by
  refine ⟨fun boxes' hperm hhead => alignmentOf_of_head? hperm hhead, ?_, ?_⟩
  · intro hsame main h
    exact measuredBy_eq_of_perm h hsame
  · intro hall boxes' hperm
    cases h : flow.mainAxis with
    | none => rw [alignmentOf_of_free t h, alignmentOf_of_free t h]
    | some main =>
      by_cases hne : boxes = []
      · subst hne
        rw [hperm.eq_nil]
      · rw [alignmentOf_eq_sharedAlignment h (hall main h) hne hperm,
          alignmentOf_eq_sharedAlignment h (hall main h) hne (Perm.refl _)]

/-- Three boxes with their middles on one line; each starts half a pixel above the next. -/
def risers : List (Box Float) := [⟨20, 0, 10, 20⟩, ⟨0, 0.5, 10, 19⟩, ⟨40, 1, 10, 18⟩]

theorem risers_not_alignmentOf_perm : ¬∀ (t : Tolerances Float) (flow : Flow)
    (boxes boxes' : List (Box Float)), boxes' ~ boxes →
      alignmentOf t flow boxes' = alignmentOf t flow boxes := by
  intro hsame
  have hswapped := hsame default .row risers [⟨0, 0.5, 10, 19⟩, ⟨20, 0, 10, 20⟩, ⟨40, 1, 10, 18⟩]
    (.swap ..)
  have hcenter : alignmentOf default .row risers = .center := by decide +kernel
  have hstart : alignmentOf (default : Tolerances Float) .row
      [⟨0, 0.5, 10, 19⟩, ⟨20, 0, 10, 20⟩, ⟨40, 1, 10, 18⟩] = .start := by decide +kernel
  rw [hcenter, hstart] at hswapped
  cases hswapped

end Inference

end Artboard
