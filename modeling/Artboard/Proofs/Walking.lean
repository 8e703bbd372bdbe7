import Artboard.Proofs.Unfolding

/-!
# Walking an arena

The walk of an arena that holds scenes meets the numbers of the scenes, a slot before what it lists:
its budget of steps is never used up. So it meets every reachable slot, and none twice.
-/

open List

namespace Artboard

namespace Arena

variable {α : Type} {a : Arena α}

/-- Numbers with all they lead to, each before what its slot lists. -/
inductive Preorder (a : Arena α) : List Nat → List Nat → Prop
  | nil : Preorder a [] []
  | cons {i : Nat} {s : Slot α} {is below rest : List Nat} (hs : a.get? i = some s)
      (hbelow : Preorder a s.children below) (hrest : Preorder a is rest) :
      Preorder a (i :: is) (i :: (below ++ rest))

theorem childIndices_of_get? {i : Nat} {s : Slot α} (hs : a.get? i = some s) :
    a.childIndices i = s.children := by
  simp [childIndices, hs]

mutual

theorem walkFrom_scene (p : Option Nat) (rest : List (Nat × Nat)) : ∀ (s : Scene α) {b : Nat},
    (∀ {i t}, (i, t) ∈ Scene.slots p s → a.get? i = some t) → s.figure.height ≤ b + 1 →
      a.walkFrom ((b, s.slot) :: rest) = s.numbers ++ a.walkFrom rest
  | .node i e cs, b, hget, hheight => by
    rw [Scene.figure, Figure.height] at hheight
    rw [Scene.slot, Scene.numbers]
    cases b with
    | zero =>
      -- without fuel left the scene has no children
      have hnil : cs = [] := by
        cases cs with
        | nil => rfl
        | cons c cs =>
          cases c
          simp [Scene.figures, Scene.figure, Figure.heightOf, Figure.height] at hheight
      subst hnil
      rw [walkFrom]
      rfl
    | succ b =>
      have hcs := walkFrom_scenes (some i) rest cs (b := b)
        (fun hm => hget (mem_cons_of_mem _ hm)) (by omega)
      rw [walkFrom, childIndices_of_get? (hget mem_cons_self), hcs]
      rfl

theorem walkFrom_scenes (p : Option Nat) (rest : List (Nat × Nat)) : ∀ (ss : List (Scene α))
    {b : Nat}, (∀ {i t}, (i, t) ∈ Scene.slotsOfAll p ss → a.get? i = some t) →
      Figure.heightOf (Scene.figures ss) ≤ b + 1 →
        a.walkFrom ((ss.map Scene.slot).map (fun i => (b, i)) ++ rest) =
          Scene.numbersOfAll ss ++ a.walkFrom rest
  | [], _, _, _ => rfl
  | s :: ss, b, hget, hheight => by
    rw [Scene.figures, Figure.heightOf] at hheight
    have hs := walkFrom_scene p ((ss.map Scene.slot).map (fun i => (b, i)) ++ rest) s
      (fun hm => hget (mem_append_left _ hm)) (b := b) (by omega)
    have hss := walkFrom_scenes p rest ss (b := b)
      (fun hm => hget (mem_append_right _ hm)) (by omega)
    rw [map_cons, map_cons, cons_append, hs, hss, Scene.numbersOfAll, append_assoc]

end

theorem preorder_scenes (p : Option Nat) : ∀ (ss : List (Scene α)),
    (∀ {i t}, (i, t) ∈ Scene.slotsOfAll p ss → a.get? i = some t) →
      a.Preorder (ss.map Scene.slot) (Scene.numbersOfAll ss)
  | [], _ => .nil
  | .node i e cs :: ss, hget =>
    .cons (hget mem_cons_self)
      (preorder_scenes (some i) cs fun hm => hget (mem_append_left _ (mem_cons_of_mem _ hm)))
      (preorder_scenes p ss fun hm => hget (mem_append_right _ hm))

namespace Holds

variable {scenes : List (Scene α)} (h : a.Holds scenes)
include h

theorem walk_eq : a.walk = Scene.numbersOfAll scenes := by
  have hheight := Nat.le_trans (Scene.heightOf_figures_le scenes) h.length_numbers_le
  have hwalk := walkFrom_scenes none [] scenes h.get? (Nat.le_succ_of_le hheight)
  rw [append_nil, ← h.roots_eq, walkFrom, append_nil] at hwalk
  exact hwalk

theorem preorder_walk : a.Preorder a.roots a.walk := by
  rw [h.roots_eq, h.walk_eq]
  exact preorder_scenes none scenes h.get?

theorem mem_walk_iff {i : Nat} : i ∈ a.walk ↔ a.Reachable i := by
  rw [h.walk_eq]
  refine ⟨fun hi => ?_, h.mem_of_reachable⟩
  obtain ⟨t, ht⟩ := (Scene.mem_numbersOfAll_iff none).mp hi
  exact (h.mem_slots_iff.mp ht).1

end Holds

end Arena

end Artboard
