import Artboard.Proofs.Filling
import Artboard.Scene.Branch
import Mathlib.Data.Fintype.Card

/-!
# Branches of figures

An arena whose links agree unfolds to the branches of its figures: no number is unknown, and the
budget of steps reaches the bottom of every figure. So there is always a tree to write code for, and
nothing but the figures is told by it.
-/

open List

namespace Artboard

namespace Figure

variable {α : Type}

mutual

/-- A figure where it stands, without what its kind does not show. -/
def branch (parent : Option Flow) : Figure α → Branch α
  | node e cs =>
    .node ⟨e, parent, !cs.isEmpty⟩ (if e.kind.isParent then branches (some e.flow) cs else [])

def branches (parent : Option Flow) : List (Figure α) → List (Branch α)
  | [] => []
  | f :: fs => branch parent f :: branches parent fs

end

end Figure

namespace Scene

variable {α : Type}

mutual

def branch (parent : Option Flow) : Scene α → Branch α
  | node _ e cs =>
    .node ⟨e, parent, !cs.isEmpty⟩ (if e.kind.isParent then branches (some e.flow) cs else [])

def branches (parent : Option Flow) : List (Scene α) → List (Branch α)
  | [] => []
  | s :: ss => branch parent s :: branches parent ss

end

mutual

theorem branch_figure (parent : Option Flow) : ∀ s : Scene α,
    s.figure.branch parent = s.branch parent
  | node i e cs => by
    have hempty : (figures cs).isEmpty = cs.isEmpty := by rw [figures_eq_map, isEmpty_map]
    rw [figure, Figure.branch, branch, hempty, branches_figures (some e.flow) cs]

theorem branches_figures (parent : Option Flow) : ∀ ss : List (Scene α),
    Figure.branches parent (figures ss) = branches parent ss
  | [] => rfl
  | s :: ss => by
    rw [figures, Figure.branches, branches, branch_figure parent s, branches_figures parent ss]

end

end Scene

namespace Arena

variable {α : Type} {a : Arena α}

/-! ## Depth -/

mutual

theorem unfolds_unique : ∀ {f g : Figure α} {i : Nat}, a.Unfolds i f → a.Unfolds i g → f = g
  | .node _ fs, .node _ gs, _, ⟨s, hs, he, hfs⟩, ⟨t, ht, he', hgs⟩ => by
    cases hs.symm.trans ht
    rw [← he, ← he', unfoldsAll_unique hfs hgs]

theorem unfoldsAll_unique : ∀ {fs gs : List (Figure α)} {is : List Nat},
    a.UnfoldsAll is fs → a.UnfoldsAll is gs → fs = gs
  | [], [], _, _, _ => rfl
  | _ :: _, _ :: _, _ :: _, ⟨hf, hfs⟩, ⟨hg, hgs⟩ => by
    rw [unfolds_unique hf hg, unfoldsAll_unique hfs hgs]
  | [], _ :: _, [], _, h => h.elim
  | _ :: _, [], [], h, _ => h.elim

end

mutual

theorem exists_unfolds_height : ∀ {f : Figure α} {i k : Nat}, a.Unfolds i f → 0 < k →
    k ≤ f.height → ∃ j g, a.Unfolds j g ∧ g.height = k
  | .node e fs, i, k, hf, hpos, hk => by
    by_cases htop : k = (Figure.node e fs).height
    · exact ⟨i, _, hf, htop.symm⟩
    · obtain ⟨s, _, _, hfs⟩ := hf
      rw [Figure.height] at hk htop
      exact exists_unfoldsAll_height hfs hpos (by omega)

theorem exists_unfoldsAll_height : ∀ {fs : List (Figure α)} {is : List Nat} {k : Nat},
    a.UnfoldsAll is fs → 0 < k → k ≤ Figure.heightOf fs → ∃ j g, a.Unfolds j g ∧ g.height = k
  | [], _, k, _, hpos, hk => absurd hk (Nat.not_le_of_lt hpos)
  | f :: fs, _ :: _, k, ⟨hf, hfs⟩, hpos, hk => by
    rw [Figure.heightOf] at hk
    rcases le_max_iff.mp hk with h | h
    · exact exists_unfolds_height hf hpos h
    · exact exists_unfoldsAll_height hfs hpos h

end

theorem height_le_size {f : Figure α} {i : Nat} (h : a.Unfolds i f) : f.height ≤ a.size := by
  choose j g hj hg using fun k : Fin f.height =>
    exists_unfolds_height h (Nat.succ_pos k.val) (Nat.succ_le_of_lt k.isLt)
  have hlt : ∀ k, j k < a.size := by
    intro k
    obtain ⟨s, hs, _⟩ := unfolds_iff.mp (hj k)
    exact get?_lt hs
  have hinjective : Function.Injective fun k => (⟨j k, hlt k⟩ : Fin a.size) := by
    intro k l hkl
    have hsame : j k = j l := congrArg Fin.val hkl
    have hl := hj l
    rw [← hsame] at hl
    have hheight := congrArg Figure.height (unfolds_unique (hj k) hl)
    rw [hg, hg] at hheight
    exact Fin.ext (Nat.succ.inj hheight)
  simpa using Fintype.card_le_of_injective _ hinjective

theorem heightOf_le_size : ∀ {fs : List (Figure α)} {is : List Nat}, a.UnfoldsAll is fs →
    Figure.heightOf fs ≤ a.size
  | [], _, _ => Nat.zero_le _
  | _ :: _, _ :: _, ⟨hf, hfs⟩ => Nat.max_le.mpr ⟨height_le_size hf, heightOf_le_size hfs⟩

/-! ## Branches -/

/-- Roots have no parent, and what a reachable slot lists has that slot as its parent. -/
structure IsLinked (a : Arena α) : Prop where
  parent_of_root : ∀ i ∈ a.roots, ∃ s, a.get? i = some s ∧ s.parent = none
  names_of_lists : ∀ p c, a.Reachable p → a.Lists p c → a.Names c p

theorem IsForest.isLinked (h : a.IsForest) : a.IsLinked := ⟨h.parent_of_root, h.names_of_lists⟩

theorem site_eq {s : Slot α} {parent : Option Flow}
    (h : a.parentFlow s.parent = .ok parent) :
    a.site s = .ok ⟨s.element, parent, !s.children.isEmpty⟩ := by
  unfold site
  rw [h]
  rfl

theorem site_scene {p : Option Nat} {f : Option Flow} (hp : a.parentFlow p = .ok f) (e : Element α)
    (cs : List (Scene α)) : a.site ⟨e, p, cs.map Scene.slot⟩ = .ok ⟨e, f, !cs.isEmpty⟩ := by
  rw [site_eq hp, isEmpty_map]

theorem branch_zero {i : Nat} {s : Slot α} {site : Site α} (hs : a.get? i = some s)
    (hsite : a.site s = .ok site) : a.branch 0 i = .ok (.node site []) := by
  unfold branch get
  rw [hs]
  change (a.site s >>= _) = _
  rw [hsite]
  rfl

theorem branch_succ {i n : Nat} {s : Slot α} {site : Site α} {bs : List (Branch α)}
    (hs : a.get? i = some s) (hsite : a.site s = .ok site)
    (hbs : s.shown.mapM (a.branch n) = .ok bs) : a.branch (n + 1) i = .ok (.node site bs) := by
  unfold branch get
  rw [hs]
  change (a.site s >>= _) = _
  rw [hsite]
  change (s.shown.mapM (a.branch n) >>= _) = _
  rw [hbs]
  rfl

theorem isEmpty_of_unfoldsAll {is : List Nat} {fs : List (Figure α)} (h : a.UnfoldsAll is fs) :
    is.isEmpty = fs.isEmpty := by
  cases is <;> cases fs <;> first | rfl | cases h

namespace IsLinked

theorem parentFlow_of_root (h : a.IsLinked) {i : Nat} (hi : i ∈ a.roots) {s : Slot α}
    (hs : a.get? i = some s) : a.parentFlow s.parent = .ok none := by
  obtain ⟨t, ht, hnone⟩ := h.parent_of_root i hi
  cases ht.symm.trans hs
  rw [hnone]
  rfl

theorem parentFlow_of_child (h : a.IsLinked) {p c : Nat} {s t : Slot α} (hp : a.Reachable p)
    (hs : a.get? p = some s) (hc : c ∈ s.children) (ht : a.get? c = some t) :
    a.parentFlow t.parent = .ok (some s.element.flow) := by
  obtain ⟨u, hu, hparent⟩ := h.names_of_lists p c hp ⟨s, hs, hc⟩
  cases hu.symm.trans ht
  rw [hparent]
  exact parentFlow_some hs

mutual

theorem branch_eq (h : a.IsLinked) : ∀ {f : Figure α} {i b : Nat} {parent : Option Flow},
    a.Unfolds i f → a.Reachable i →
      (∀ s, a.get? i = some s → a.parentFlow s.parent = .ok parent) → f.height ≤ b + 1 →
        a.branch b i = .ok (f.branch parent)
  | .node e fs, i, b, parent, ⟨s, hs, he, hfs⟩, hi, hparent, hheight => by
    subst he
    have hsite := site_eq (hparent s hs)
    rw [isEmpty_of_unfoldsAll hfs] at hsite
    rw [Figure.height] at hheight
    rw [Figure.branch]
    cases b with
    | zero =>
      -- without fuel left the figure has no children
      have hnil : fs = [] := by
        cases fs with
        | nil => rfl
        | cons f fs =>
          cases f
          simp [Figure.heightOf, Figure.height] at hheight
      subst hnil
      rw [branch_zero hs hsite, Figure.branches, ite_self]
    | succ b =>
      have hcs : s.children.mapM (a.branch b) = .ok (Figure.branches (some s.element.flow) fs) :=
        mapM_branch_eq h hfs (fun j hj => .child hi hs hj)
          (fun j hj t => h.parentFlow_of_child hi hs hj) (by omega)
      have hshown : s.shown.mapM (a.branch b) =
          .ok (if s.element.kind.isParent then Figure.branches (some s.element.flow) fs
            else []) := by
        unfold Slot.shown
        by_cases hkind : s.element.kind.isParent = true
        · rw [if_pos hkind, if_pos hkind, hcs]
        · rw [if_neg hkind, if_neg hkind]
          rfl
      exact branch_succ hs hsite hshown

theorem mapM_branch_eq (h : a.IsLinked) : ∀ {fs : List (Figure α)} {is : List Nat} {b : Nat}
    {parent : Option Flow}, a.UnfoldsAll is fs → (∀ i ∈ is, a.Reachable i) →
      (∀ i ∈ is, ∀ s, a.get? i = some s → a.parentFlow s.parent = .ok parent) →
        Figure.heightOf fs ≤ b + 1 → is.mapM (a.branch b) = .ok (Figure.branches parent fs)
  | [], [], _, _, _, _, _, _ => rfl
  | f :: fs, i :: is, b, parent, ⟨hf, hfs⟩, hreach, hparent, hheight => by
    rw [forall_mem_cons] at hreach hparent
    rw [Figure.heightOf] at hheight
    have hfirst := branch_eq h hf hreach.1 hparent.1 (b := b) (by omega)
    have hrest := mapM_branch_eq h hfs hreach.2 hparent.2 (b := b) (by omega)
    rw [mapM_cons, hfirst, hrest, Figure.branches]
    rfl

end

/-- **Linked arenas unfold to the branches of their figures.** -/
theorem branches_eq (h : a.IsLinked) {fs : List (Figure α)} (hfs : a.UnfoldsAll a.roots fs) :
    a.branches = .ok (Figure.branches none fs) :=
  h.mapM_branch_eq hfs (fun _ => .root) (fun _ hi _ => h.parentFlow_of_root hi)
    (Nat.le_succ_of_le (heightOf_le_size hfs))

end IsLinked

namespace Holds

variable {scenes : List (Scene α)} (h : a.Holds scenes)
include h

theorem isLinked : a.IsLinked := ⟨fun _ => h.parent_of_root, fun _ _ => h.names_of_lists⟩

theorem branches_eq : a.branches = .ok (Scene.branches none scenes) := by
  rw [h.isLinked.branches_eq h.unfoldsAll, Scene.branches_figures]

end Holds

/-! ## Branches looked up from below -/

section
variable {ε β γ : Type}

theorem bind_eq_ok_iff {x : Except ε β} {f : β → Except ε γ} {c : γ} :
    (x >>= f) = .ok c ↔ ∃ b, x = .ok b ∧ f b = .ok c := by
  cases x with
  | error e =>
    constructor
    · intro h
      cases h
    · rintro ⟨b, hb, _⟩
      cases hb
  | ok b =>
    constructor
    · intro h
      exact ⟨b, rfl, h⟩
    · rintro ⟨_, ⟨⟩, h⟩
      exact h

theorem mapM_eq_ok_iff_of {f g : β → Except ε γ} (h : ∀ x y, f x = .ok y ↔ g x = .ok y) :
    ∀ (xs : List β) (ys : List γ), xs.mapM f = .ok ys ↔ xs.mapM g = .ok ys
  | [], _ => Iff.rfl
  | x :: xs, ys => by
    simp only [mapM_cons, bind_eq_ok_iff, h, mapM_eq_ok_iff_of h]

end

theorem branchFromBelow_eq_ok_iff : ∀ (n i : Nat) (b : Branch α),
    a.branchFromBelow n i = .ok b ↔ a.branch n i = .ok b
  | 0, _, _ => Iff.rfl
  | n + 1, i, b => by
    have ih := mapM_eq_ok_iff_of (branchFromBelow_eq_ok_iff n)
    unfold branchFromBelow branch
    simp only [bind_eq_ok_iff]
    -- what is below and the parent of a slot are looked up independently of each other
    constructor
    · rintro ⟨s, hs, children, hchildren, site, hsite, hb⟩
      exact ⟨s, hs, site, hsite, children, (ih _ _).mp hchildren, hb⟩
    · rintro ⟨s, hs, site, hsite, children, hchildren, hb⟩
      exact ⟨s, hs, children, (ih _ _).mpr hchildren, site, hsite, hb⟩

/-- **Both orders of lookups unfold the same arenas, to the same branches.** -/
theorem branchesFromBelow_eq_ok_iff {bs : List (Branch α)} :
    a.branchesFromBelow = .ok bs ↔ a.branches = .ok bs :=
  mapM_eq_ok_iff_of (branchFromBelow_eq_ok_iff a.size) a.roots bs

/-- A root that names slot 8 as its parent and lists slot 9, neither of which is there. -/
def unhinged : Arena Float :=
  ⟨#[⟨⟨.group, .plain "1" "unhinged" ⟨0, 0, 1, 1, 0⟩ ⟨0, 0, 1, 1⟩⟩, some 8, [9]⟩], [0]⟩

example : unhinged.branches = .error ⟨8⟩ ∧ unhinged.branchesFromBelow = .error ⟨9⟩ := ⟨rfl, rfl⟩

end Arena

end Artboard
