import Artboard.Proofs.Invariant
import Artboard.Normal.Normalize

/-!
# Slot numbers

Every number handed out during a build is, from then on, either the slot of exactly one node of the
scenes at hand or exactly once abandoned. At the end no number below the next free one is missing,
so a slot is found in the arena under the number it was made for.
-/

open List

namespace Artboard

namespace Scene

variable {α : Type}

mutual

def numbers : Scene α → List Nat
  | node i _ cs => i :: numbersOfAll cs

def numbersOfAll : List (Scene α) → List Nat
  | [] => []
  | s :: rest => numbers s ++ numbersOfAll rest

end

theorem numbersOfAll_eq_flatMap : ∀ ss : List (Scene α), numbersOfAll ss = ss.flatMap numbers
  | [] => rfl
  | s :: ss => by rw [numbersOfAll, numbersOfAll_eq_flatMap ss, flatMap_cons]

theorem numbersOfAll_append (ss ts : List (Scene α)) :
    numbersOfAll (ss ++ ts) = numbersOfAll ss ++ numbersOfAll ts := by
  simp only [numbersOfAll_eq_flatMap, flatMap_append]

theorem numbersOfAll_singleton (s : Scene α) : numbersOfAll [s] = s.numbers := by
  simp [numbersOfAll]

theorem numbersOfAll_perm {ss ts : List (Scene α)} (h : ss ~ ts) :
    numbersOfAll ss ~ numbersOfAll ts := by
  simp only [numbersOfAll_eq_flatMap]
  exact h.flatMap_right _

@[simp] theorem numbers_mapElement (f : Element α → Element α) (s : Scene α) :
    (s.mapElement f).numbers = s.numbers := by
  cases s; rfl

@[simp] theorem numbers_shift [Scalar α] (s : Scene α) (dx dy : α) :
    (s.shift dx dy).numbers = s.numbers := numbers_mapElement ..

theorem numbersOfAll_map {f : Scene α → Scene α} (h : ∀ s, (f s).numbers = s.numbers)
    (ss : List (Scene α)) : numbersOfAll (ss.map f) = numbersOfAll ss := by
  simp only [numbersOfAll_eq_flatMap, flatMap_map, h]

theorem numbers_settled [Scalar α] (slot : Nat) (e : Element α) (cs : List (Scene α)) :
    (settled slot e cs).numbers = slot :: numbersOfAll cs := by
  rw [settled, numbers, numbersOfAll_map (numbers_mapElement _)]

mutual

theorem slots_numbers (p : Option Nat) : ∀ s : Scene α, (slots p s).map (·.1) = s.numbers
  | node i e cs => by rw [slots, numbers, map_cons, slotsOfAll_numbers (some i) cs]

theorem slotsOfAll_numbers (p : Option Nat) :
    ∀ ss : List (Scene α), (slotsOfAll p ss).map (·.1) = numbersOfAll ss
  | [] => rfl
  | s :: ss => by
    rw [slotsOfAll, numbersOfAll, map_append, slots_numbers p s, slotsOfAll_numbers p ss]

end

end Scene

namespace Ledger

variable {α : Type}

def numbers (l : Ledger α) : List Nat := l.abandoned.map (·.1)

/-- A stretch of a build that starts with the numbers `used` in hand and ends with `made`: the
numbers handed out on the way, and those in hand, are in hand or abandoned at the end. -/
structure Accounts (used : List Nat) (l : Ledger α) (made : List Nat) (l' : Ledger α) : Prop where
  next_le : l.next ≤ l'.next
  balance : ∀ i, made.count i + l'.numbers.count i =
    (if l.next ≤ i ∧ i < l'.next then 1 else 0) + used.count i + l.numbers.count i

namespace Accounts

variable {used made more : List Nat} {l l' l'' : Ledger α}

theorem refl (used : List Nat) (l : Ledger α) : Accounts used l used l :=
  ⟨Nat.le_refl _, fun i => by
    rw [if_neg (by omega)]
    omega⟩

theorem trans (h : Accounts used l made l') (h' : Accounts made l' more l'') :
    Accounts used l more l'' := by
  refine ⟨Nat.le_trans h.next_le h'.next_le, fun i => ?_⟩
  have := h.next_le
  have := h'.next_le
  have hi := h.balance i
  have hi' := h'.balance i
  split_ifs at hi hi' ⊢ <;> omega

theorem frame (h : Accounts used l made l') (kept : List Nat) :
    Accounts (used ++ kept) l (made ++ kept) l' := by
  refine ⟨h.next_le, fun i => ?_⟩
  have := h.balance i
  simp only [count_append]
  omega

theorem perm {used' made' : List Nat} (h : Accounts used l made l') (hu : used ~ used')
    (hm : made ~ made') : Accounts used' l made' l' :=
  ⟨h.next_le, fun i => by
    rw [← hu.count_eq i, ← hm.count_eq i]
    exact h.balance i⟩

theorem allocate (l : Ledger α) : Accounts [] l [l.next] { l with next := l.next + 1 } := by
  refine ⟨Nat.le_succ _, fun i => ?_⟩
  simp only [count_singleton, count_nil, numbers, beq_iff_eq]
  split_ifs <;> omega

theorem abandon (slot : Nat) (content : Slot α) (l : Ledger α) :
    Accounts [slot] l [] { l with abandoned := (slot, content) :: l.abandoned } := by
  refine ⟨Nat.le_refl _, fun i => ?_⟩
  have : ¬(l.next ≤ i ∧ i < l.next) := by omega
  simp only [numbers, map_cons, count_cons, count_nil, if_neg this]
  omega

theorem perm_range (h : Accounts [] (⟨0, []⟩ : Ledger α) made l') :
    made ++ l'.numbers ~ List.range l'.next := by
  have hcount : ∀ i, (made ++ l'.numbers).count i = if i < l'.next then 1 else 0 := by
    intro i
    have := h.balance i
    simpa [count_append, numbers] using this
  rw [perm_iff_count]
  intro i
  rw [hcount, count_range]

end Accounts

end Ledger

/-! ## Builds account for their numbers -/

namespace Scene

variable {α : Type}

def IsBare (s : Scene α) : Prop := s.element.kind.isParent = false → s.children = []

theorem IsBare.children_eq_nil {s : Scene α} (h : s.IsBare) (hp : s.isPromotable = true) :
    s.children = [] := by
  unfold isPromotable at hp
  split at hp
  · rename_i hk
    exact h (by rw [hk]; rfl)
  · exact isEmpty_iff.mp hp
  · cases hp

theorem numbers_of_children_eq_nil {s : Scene α} (h : s.children = []) : s.numbers = [s.slot] := by
  cases s
  subst h
  rfl

variable [Scalar α]

theorem inference_cases (o : NormalizeOptions α) (cs : List (Scene α)) :
    (background? cs (inference o cs) = none ∧ inOrder cs (inference o cs).order ~ cs) ∨
      ∃ b rest, cs = b :: rest ∧ rest ≠ [] ∧ b.isPromotable = true ∧
        background? cs (inference o cs) = some b ∧ inOrder cs (inference o cs).order ~ rest :=
  Inference.picks_cases o.tolerances item cs rfl

open Ledger

theorem promote_accounts (parent : Nat) {b : Scene α} {rest : List (Scene α)} {i : Inference α}
    (hb : b.children = []) (horder : inOrder (b :: rest) i.order ~ rest) (l : Ledger α) :
    Accounts (numbersOfAll (b :: rest)) l (promote parent (b :: rest) i b l).1.numbers
      (promote parent (b :: rest) i b l).2 := by
  have hleft : numbersOfAll (b :: rest) = [b.slot] ++ numbersOfAll rest := by
    rw [numbersOfAll, numbers_of_children_eq_nil hb]
  have hmade : (promote parent (b :: rest) i b l).1.numbers ~ [l.next] ++ numbersOfAll rest := by
    change (settled l.next _ _).numbers ~ _
    rw [numbers_settled, numbersOfAll_map fun s => numbers_shift s _ _]
    exact (numbersOfAll_perm horder).cons _
  -- one number goes and a new one comes, the siblings keep theirs
  have hgone := (Accounts.abandon b.slot ⟨b.element, some parent, []⟩ l).frame (numbersOfAll rest)
  rw [hleft]
  exact (hgone.trans ((Accounts.allocate _).frame _)).perm (Perm.refl _) hmade.symm

theorem inferContainer_accounts (o : NormalizeOptions α) (slot : Nat) (e : Element α)
    (layout : ContainerLayout α) {cs : List (Scene α)} (hcs : ∀ c ∈ cs, c.IsBare) (l : Ledger α) :
    Accounts (slot :: numbersOfAll cs) l (inferContainer o slot e layout cs l).1.numbers
      (inferContainer o slot e layout cs l).2 := by
  unfold inferContainer
  rcases inference_cases o cs with ⟨hb, horder⟩ | ⟨b, rest, rfl, _, hprom, hb, horder⟩
  · simp only [hb]
    split
    · change Accounts _ l (settled _ _ _).numbers l
      rw [numbers_settled]
      exact (Accounts.refl _ l).perm (Perm.refl _) ((numbersOfAll_perm horder).symm.cons slot)
    · change Accounts _ l (settled _ _ _).numbers l
      rw [numbers_settled]
      exact Accounts.refl _ l
  · simp only [hb]
    have hbare := (hcs b mem_cons_self).children_eq_nil hprom
    have hp := (promote_accounts slot hbare horder l).frame [slot]
    change Accounts _ l (settled _ _ [(promote slot (b :: rest) _ b l).1]).numbers _
    rw [numbers_settled, numbersOfAll_singleton]
    exact hp.perm perm_append_comm perm_append_comm

theorem ofContainer_accounts (o : NormalizeOptions α) (declared : Bool) (slot : Nat)
    (e : Element α) {cs : List (Scene α)} (hcs : ∀ c ∈ cs, c.IsBare) (l : Ledger α) :
    Accounts (slot :: numbersOfAll cs) l (ofContainer o declared slot e cs l).1.numbers
      (ofContainer o declared slot e cs l).2 := by
  have hsettled : Accounts (slot :: numbersOfAll cs) l (settled slot e cs).numbers l := by
    rw [numbers_settled]
    exact Accounts.refl _ l
  unfold ofContainer
  split
  · rename_i hnil
    rw [isEmpty_iff.mp hnil]
    exact Accounts.refl [slot] l
  · cases e.kind with
    | container layout =>
      cases !declared && o.infer with
      | true => exact inferContainer_accounts o slot e layout hcs l
      | false => exact hsettled
    | _ => exact hsettled

theorem unwrap_accounts (parent : Option Nat) (slot : Nat) (e : Element α) (listed : List Nat)
    (child : Scene α) (l : Ledger α) :
    Accounts (slot :: child.numbers) l
      (numbersOfAll (unwrap parent slot e listed child l).1.toList)
      (unwrap parent slot e listed child l).2 := by
  change Accounts _ l (numbersOfAll [child.shift _ _]) _
  rw [numbersOfAll_singleton, numbers_shift]
  exact (Accounts.abandon slot _ l).frame child.numbers

theorem ofGroup_accounts (o : NormalizeOptions α) (parent : Option Nat) (slot : Nat)
    (e : Element α) {cs : List (Scene α)} (hcs : ∀ c ∈ cs, c.IsBare) (l : Ledger α) :
    Accounts (slot :: numbersOfAll cs) l (numbersOfAll (ofGroup o parent slot e cs l).1.toList)
      (ofGroup o parent slot e cs l).2 := by
  match cs with
  | [] => exact Accounts.abandon slot _ l
  | [only] =>
    rw [numbersOfAll_singleton]
    exact unwrap_accounts parent slot e [] only l
  | a :: b :: rest =>
    have hkept : Accounts (slot :: numbersOfAll (a :: b :: rest)) l
        (numbersOfAll [node slot e (a :: b :: rest)]) l := by
      rw [numbersOfAll_singleton, numbers]
      exact Accounts.refl _ l
    unfold ofGroup
    rcases inference_cases o (a :: b :: rest) with
      ⟨hb, _⟩ | ⟨back, others, heq, _, hprom, hb, horder⟩
    · simp only [hb]
      cases o.infer <;> exact hkept
    · simp only [hb]
      cases o.infer with
      | false => exact hkept
      | true =>
        -- the container promoted into is unwrapped in turn, so the group's number is given up too
        cases heq
        have hbare := (hcs a mem_cons_self).children_eq_nil hprom
        have hp := (promote_accounts slot hbare horder l).frame [slot]
        exact (hp.perm perm_append_comm perm_append_comm).trans (unwrap_accounts ..)

end Scene

namespace Source

variable {α : Type} [Scalar α] [Circular α] (o : NormalizeOptions α)

theorem isBare_of_mem_buildAll {parent : Option Nat} {ss : List (Source α)} {l : Ledger α}
    {s : Scene α} (hs : s ∈ (buildAll o parent ss l).1) : s.IsBare := by
  have hfit := Figure.isFit_figures o ss
  rw [← buildAll_figures o parent ss l, Figure.everyOf_iff] at hfit
  have hs' := (Figure.every_iff.mp (hfit _ (mem_map_of_mem hs))).1
  intro hk
  rw [Scene.element_figure, Scene.children_figure] at hs'
  exact map_eq_nil_iff.mp (Figure.IsFit.eq_nil hs' hk)

open Ledger

mutual

theorem build_accounts (parent : Option Nat) : ∀ (s : Source α) (l : Ledger α),
    Accounts [] l (Scene.numbersOfAll (build o parent s l).1.toList) (build o parent s l).2
  | node d children, l => by
    unfold build
    have hnew := Accounts.allocate l
    have hkids := (buildAll_accounts (some l.next) children { l with next := l.next + 1 }).frame
      [l.next]
    have hboth := (hnew.trans hkids).perm (Perm.refl _) perm_append_comm
    -- only what was built of a leaf can be promoted, and it has no numbers below
    have hbare : ∀ c ∈ (buildAll o (some l.next) children { l with next := l.next + 1 }).1,
        c.IsBare := fun _ => isBare_of_mem_buildAll o
    cases d.isKept with
    | false => exact Accounts.refl [] l
    | true =>
      cases d.snapshot with
      | none => exact Accounts.refl [] l
      | some e =>
        cases d.kind with
        | container =>
          have hstep := Scene.ofContainer_accounts o d.declared.isSome l.next e hbare
            (buildAll o (some l.next) children { l with next := l.next + 1 }).2
          rw [← Scene.numbersOfAll_singleton] at hstep
          exact hboth.trans hstep
        | group => exact hboth.trans (Scene.ofGroup_accounts o parent _ e hbare _)
        | _ => exact hnew

theorem buildAll_accounts (parent : Option Nat) : ∀ (ss : List (Source α)) (l : Ledger α),
    Accounts [] l (Scene.numbersOfAll (buildAll o parent ss l).1) (buildAll o parent ss l).2
  | [], l => Accounts.refl [] l
  | s :: rest, l => by
    have hfirst := build_accounts parent s l
    have hothers := (buildAll_accounts parent rest (build o parent s l).2).frame
      (Scene.numbersOfAll (build o parent s l).1.toList)
    change Accounts [] l (Scene.numbersOfAll ((build o parent s l).1.toList ++
      (buildAll o parent rest (build o parent s l).2).1)) _
    rw [Scene.numbersOfAll_append]
    exact (hfirst.trans hothers).perm (Perm.refl _) perm_append_comm

end

end Source

end Artboard
