import Artboard.Proofs.InferredOrder

/-!
# Every child once

An inference speaks of children by their places in the list it was given. The places pass through a
list without the background and a sort of that list, and still each comes back once, whatever the
numbers are.
-/

open List

namespace Artboard

namespace Inference

variable {α : Type} [Scalar α] {t : Tolerances α}

/-- What is told of so many children speaks of each of them once, and of nothing that is not there. -/
structure Accounts (count : Nat) (i : Inference α) : Prop where
  perm : i.order ++ i.promoted.toList ~ List.range count
  ordered : i.flow = .free → i.order.Pairwise (· < ·)
  two_le : i.flow ≠ .free → 2 ≤ i.order.length
  bare : i.flow = .free → i.spacing = 0 ∧ i.padding = .uniform 0

section
variable {promoted : Option Nat} {padding : List (Box α) → Padding α} {members : List (Placed α)}

theorem ofMembers_of_free (h : (ofMembers t promoted padding members).flow = .free) :
    ofMembers t promoted padding members =
      ⟨promoted, .free, members.map (·.1), 0, .start, .uniform 0⟩ := by
  have hfree : (Detection.ofPlaced t members).flow.isFlow = false := congrArg Flow.isFlow h
  rw [ofMembers, Detection.ofPlaced_eq_free hfree]
  rfl

theorem two_le_of_flow (h : (ofMembers t promoted padding members).flow ≠ .free) :
    2 ≤ members.length := by
  by_contra hlt
  exact h (congrArg Detection.flow (if_pos (Nat.lt_of_not_le hlt)))

end

theorem exists_ofMembers (t : Tolerances α) (items : List (Item α)) :
    ∃ promoted padding members, ofItems t items = ofMembers t promoted padding members ∧
      (members.map (·.1)).Pairwise (· < ·) := by
  rcases background_cases t items with hb | ⟨a, rest, rfl, hb⟩
  · refine ⟨_, _, _, ofItems_of_no_background t hb, ?_⟩
    rw [Detection.place_indices]
    exact pairwise_lt_range
  · refine ⟨_, _, _, ofItems_of_background t hb, ?_⟩
    rw [members_indices]
    exact pairwise_lt_range.tail

/-- **Every child is accounted for once,** as the background or in the order. -/
theorem ofItems_accounts (t : Tolerances α) (items : List (Item α)) :
    Accounts items.length (ofItems t items) := by
  have hall := order_append_promoted_perm t items
  obtain ⟨promoted, padding, members, hmembers, hordered⟩ := exists_ofMembers t items
  rw [hmembers] at hall ⊢
  have hperm : (ofMembers t promoted padding members).order ~ members.map (·.1) :=
    Detection.ofPlaced_order_perm t members
  refine ⟨hall, fun h => ?_, fun h => ?_, fun h => ?_⟩
  · rw [ofMembers_of_free h]
    exact hordered
  · rw [hperm.length_eq, length_map]
    exact two_le_of_flow h
  · rw [ofMembers_of_free h]
    exact ⟨rfl, rfl⟩

end Inference

end Artboard
