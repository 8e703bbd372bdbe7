import Artboard.Code.Conversion
import Artboard.Proofs.Branches

/-!
# Renumbered arenas

Code is written for what an arena unfolds to. Which numbers its slots have, which slots are left
over and what these still name makes no difference to any format.
-/

open List

namespace Artboard

theorem Framework.branches_eq_ok_iff (f : Framework) {a : Arena Float}
    {bs : List (Branch Float)} : f.branches a = .ok bs ↔ a.branches = .ok bs := by
  cases f with
  | html | tailwind => exact Iff.rfl
  | swiftUi | flutter => exact Arena.branchesFromBelow_eq_ok_iff

namespace Arena

/-- **The code of a linked arena is that of the figures below its roots.** It does not depend on how
these are numbered, nor on slots that cannot be reached. -/
theorem code_eq_of_sameForest {a b : Arena Float} (ha : a.IsLinked) (hb : b.IsLinked)
    (h : a.SameForest b) (f : Framework) (c : Context) : a.code f c = b.code f c := by
  obtain ⟨fs, hfs, hgs⟩ := h
  have hempty : a.roots.isEmpty = b.roots.isEmpty := by
    rw [isEmpty_of_unfoldsAll hfs, isEmpty_of_unfoldsAll hgs]
  unfold code
  rw [hempty, f.branches_eq_ok_iff.mpr (ha.branches_eq hfs),
    f.branches_eq_ok_iff.mpr (hb.branches_eq hgs)]

def mat : Element Float := ⟨.group, .plain "1" "mat" ⟨0, 0, 60, 40, 0⟩ ⟨0, 0, 60, 40⟩⟩

def stone : Element Float := ⟨.ellipse, .plain "2" "stone" ⟨5, 5, 20, 20, 0⟩ ⟨5, 5, 20, 20⟩⟩

def twig : Element Float := ⟨.line, .plain "3" "twig" ⟨30, 10, 20, 0, 0⟩ ⟨30, 10, 20, 0⟩⟩

def tidy : Arena Float :=
  ⟨#[⟨mat, none, [1, 2]⟩, ⟨stone, some 0, []⟩, ⟨twig, some 0, []⟩], [0]⟩

/-- The same, with other numbers, and with a twig that was left behind. -/
def scattered : Arena Float :=
  ⟨#[⟨twig, some 3, []⟩, ⟨twig, some 9, [3, 7]⟩, ⟨stone, some 3, []⟩, ⟨mat, none, [2, 0]⟩], [3]⟩

theorem tidy_holds : tidy.Holds [.node 0 mat [.node 1 stone [], .node 2 twig []]] where
  roots_eq := rfl
  nodup := (by decide : [0, 1, 2].Nodup)
  get? := by
    intro i s h
    simp only [Scene.slotsOfAll, Scene.slots, append_nil, cons_append, nil_append, mem_cons,
      not_mem_nil, or_false] at h
    rcases h with h | h | h <;> cases h <;> rfl

theorem scattered_holds :
    scattered.Holds [.node 3 mat [.node 2 stone [], .node 0 twig []]] where
  roots_eq := rfl
  nodup := (by decide : [3, 2, 0].Nodup)
  get? := by
    intro i s h
    simp only [Scene.slotsOfAll, Scene.slots, append_nil, cons_append, nil_append, mem_cons,
      not_mem_nil, or_false] at h
    rcases h with h | h | h <;> cases h <;> rfl

theorem scattered_code_eq : tidy.IsLinked ∧ scattered.IsLinked ∧
    tidy.SameForest scattered ∧
      ∀ f c, tidy.code f c = scattered.code f c := by
  have hsame : tidy.SameForest scattered := ⟨_, tidy_holds.unfoldsAll, scattered_holds.unfoldsAll⟩
  exact ⟨tidy_holds.isLinked, scattered_holds.isLinked, hsame,
    code_eq_of_sameForest tidy_holds.isLinked scattered_holds.isLinked hsame⟩

end Arena

end Artboard
