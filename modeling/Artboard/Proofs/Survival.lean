import Artboard.Proofs.Forest
import Mathlib.Data.List.Perm.Basic

/-!
# What survives

A run neither loses nor repeats a node that is kept and is no group. Each of them becomes one
element of the result, which tells all its snapshot tells but for its place and its kind, and the
kind is rewritten in two ways only.
-/

open List

namespace Artboard

/-! ## What can become of a node -/

namespace Props

variable {α : Type}

def AgreeButPlace (p q : Props α) : Prop :=
  q = { p with
    geometry := { p.geometry with x := q.geometry.x, y := q.geometry.y }
    bounds := q.bounds }

theorem agreeButPlace_refl (p : Props α) : p.AgreeButPlace p := rfl

theorem AgreeButPlace.shift [Scalar α] {p q : Props α} (h : p.AgreeButPlace q) (dx dy : α) :
    p.AgreeButPlace (q.shift dx dy) := by
  unfold AgreeButPlace at h ⊢
  unfold Props.shift Geometry.shift
  rw [h]

end Props

namespace Kind

variable {α : Type}

def isGroup : Kind α → Bool
  | group => true
  | _ => false

/-- The rewrites of a kind, where layouts are not compared: a container that is `hollow` turns into
a rectangle, and a rectangle into a container whose layout was inferred. -/
inductive Becomes (hollow : Prop) : Kind α → Kind α → Prop
  | same {k : Kind α} (hk : k.layout? = none) : Becomes hollow k k
  | container {l l' : ContainerLayout α} (h : ¬hollow) :
      Becomes hollow (.container l) (.container l')
  | emptied {l : ContainerLayout α} (h : hollow) : Becomes hollow (.container l) .rectangle
  | promoted {k : Kind α} {l : ContainerLayout α} (h : Becomes hollow k .rectangle)
      (hl : l.origin = .inferred) : Becomes hollow k (.container l)

variable {hollow : Prop} {k : Kind α}

theorem of_isParent_eq_false (h : k.isParent = false) : k.layout? = none ∧ k.isGroup = false := by
  cases k with
  | container l => cases h
  | group => cases h
  | _ => exact ⟨rfl, rfl⟩

theorem Becomes.container_congr {l l' : ContainerLayout α} (h : Becomes hollow k (.container l))
    (hl : l'.origin = l.origin) : Becomes hollow k (.container l') := by
  generalize hk' : Kind.container l = k' at h
  cases h with
  | same hk =>
    subst hk'
    cases hk
  | container hn => exact .container hn
  | emptied => cases hk'
  | promoted hr ho =>
    cases hk'
    exact .promoted hr (hl.trans ho)

end Kind

namespace Source

variable {α : Type} [Scalar α]

def ungrouped (ss : List (Source α)) : List (Source α) :=
  (survivorsOfAll ss).filter fun s => s.draft.kind ≠ .group

def IsHollow (s : Source α) : Prop := ungrouped s.children = []

variable [Circular α]

/-- An element that a source may become, if it is a container once it is not `hollow`. -/
def Becomes (hollow : Source α → Prop) (s : Source α) (e : Element α) : Prop :=
  ∃ e₀, s.draft.snapshot = some e₀ ∧ e₀.props.AgreeButPlace e.props ∧
    Kind.Becomes (hollow s) e₀.kind e.kind

end Source

/-- The survivors that are no groups correspond one to one to the reachable slots that are no
groups, and have become what these hold. -/
def Arena.Realizes {α : Type} [Scalar α] [Circular α] (a : Arena α) (hollow : Source α → Prop)
    (ss : List (Source α)) : Prop :=
  ∃ is : List Nat, is.Nodup ∧
    (∀ i, i ∈ is ↔ a.Reachable i ∧ ∃ t, a.get? i = some t ∧ t.element.kind.isGroup = false) ∧
    Forall₂ (fun s i => ∃ t, a.get? i = some t ∧ s.Becomes hollow t.element)
      (Source.ungrouped ss) is

/-! ## Lists of survivors -/

namespace Source

variable {α : Type} [Scalar α]

theorem ungrouped_cons (s : Source α) (ss : List (Source α)) :
    ungrouped (s :: ss) = ungrouped [s] ++ ungrouped ss := by
  rw [ungrouped, survivorsOfAll_cons, filter_append]
  rfl

theorem ungrouped_of_not_isKept {d : Draft α} (h : d.isKept = false) (cs : List (Source α)) :
    ungrouped [node d cs] = [] := by
  rw [ungrouped, survivorsOfAll_of_not_isKept h, filter_nil]

theorem ungrouped_leaf {d : Draft α} (h : d.isKept = true) (hk : d.kind.hasChildren = false)
    (cs : List (Source α)) : ungrouped [node d cs] = [node d cs] := by
  have hg : d.kind ≠ .group := by
    intro hg
    rw [hg] at hk
    cases hk
  rw [ungrouped, survivorsOfAll_leaf h hk]
  simp [draft, hg]

theorem ungrouped_container {d : Draft α} (h : d.isKept = true) (hk : d.kind = .container)
    (cs : List (Source α)) : ungrouped [node d cs] = node d cs :: ungrouped cs := by
  rw [ungrouped, survivorsOfAll_container h hk]
  simp [draft, hk, ungrouped]

theorem ungrouped_group {d : Draft α} (h : d.isKept = true) (hk : d.kind = .group)
    (cs : List (Source α)) : ungrouped [node d cs] = ungrouped cs := by
  rw [ungrouped, survivorsOfAll_group h hk]
  simp [draft, hk, ungrouped]

end Source

/-! ## The elements of figures -/

namespace Figure

variable {α : Type}

mutual

def ungrouped : Figure α → List (Element α)
  | node e cs => if e.kind.isGroup then ungroupedOfAll cs else e :: ungroupedOfAll cs

def ungroupedOfAll : List (Figure α) → List (Element α)
  | [] => []
  | f :: fs => ungrouped f ++ ungroupedOfAll fs

end

theorem ungroupedOfAll_eq_flatMap :
    ∀ fs : List (Figure α), ungroupedOfAll fs = fs.flatMap ungrouped
  | [] => rfl
  | f :: fs => by rw [ungroupedOfAll, ungroupedOfAll_eq_flatMap fs, flatMap_cons]

theorem ungroupedOfAll_append (fs gs : List (Figure α)) :
    ungroupedOfAll (fs ++ gs) = ungroupedOfAll fs ++ ungroupedOfAll gs := by
  simp only [ungroupedOfAll_eq_flatMap, flatMap_append]

theorem ungroupedOfAll_perm {fs gs : List (Figure α)} (h : fs ~ gs) :
    ungroupedOfAll fs ~ ungroupedOfAll gs := by
  simp only [ungroupedOfAll_eq_flatMap]
  exact h.flatMap_right _

theorem ungroupedOfAll_node {e : Element α} (he : e.kind.isGroup = false) (cs : List (Figure α)) :
    ungroupedOfAll [node e cs] = e :: ungroupedOfAll cs := by
  simp [ungroupedOfAll, ungrouped, he]

theorem ungroupedOfAll_group {e : Element α} (he : e.kind.isGroup = true) (cs : List (Figure α)) :
    ungroupedOfAll [node e cs] = ungroupedOfAll cs := by
  simp [ungroupedOfAll, ungrouped, he]

theorem ungrouped_ne_nil [Scalar α] {o : NormalizeOptions α} :
    ∀ f : Figure α, Every (IsFit o) f → f.ungrouped ≠ []
  | node e [], h => by
    have hg : e.kind.isGroup = false := by
      obtain ⟨kind, props⟩ := e
      cases kind with
      | group => exact absurd h.1.1 (by simp)
      | _ => rfl
    simp [ungrouped, hg]
  | node e (f :: fs), h => by
    have hf := ungrouped_ne_nil f h.2.1
    rw [ungrouped]
    split
    · simp [ungroupedOfAll, hf]
    · simp

theorem ungroupedOfAll_eq_nil_iff [Scalar α] {o : NormalizeOptions α} {fs : List (Figure α)}
    (h : EveryOf (IsFit o) fs) : ungroupedOfAll fs = [] ↔ fs = [] := by
  cases fs with
  | nil => simp [ungroupedOfAll]
  | cons f fs => simp [ungroupedOfAll, ungrouped_ne_nil f h.1]

theorem forall₂_ungroupedOfAll_map {R : Element α → Element α → Prop} (hR : ∀ e, R e e)
    (g : Element α → Element α) (hg : ∀ e, (g e).kind.isGroup = e.kind.isGroup)
    (hgR : ∀ e, R e (g e)) (fs : List (Figure α)) :
    Forall₂ R (ungroupedOfAll fs) (ungroupedOfAll (fs.map (mapElement g))) := by
  have hrefl : ∀ es : List (Element α), Forall₂ R es es := fun es =>
    forall₂_same.mpr fun e _ => hR e
  induction fs with
  | nil => exact .nil
  | cons f fs ih =>
    obtain ⟨e, cs⟩ := f
    simp only [map_cons, mapElement, ungroupedOfAll, ungrouped, hg]
    refine rel_append ?_ ih
    split
    · exact hrefl _
    · exact .cons (hgR e) (hrefl _)

end Figure

end Artboard
