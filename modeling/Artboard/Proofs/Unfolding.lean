import Artboard.Proofs.Forest

/-!
# Unfolding an arena

An arena unfolds to the figures below its roots, wherever their elements are stored. The arena of a
run unfolds to the figures of its sources, and taken as sources again it is these figures.
-/

open List

namespace Artboard

namespace Arena

variable {α : Type} (a : Arena α)

mutual

def Unfolds : Nat → Figure α → Prop
  | i, .node e fs => ∃ s, a.get? i = some s ∧ s.element = e ∧ UnfoldsAll s.children fs

def UnfoldsAll : List Nat → List (Figure α) → Prop
  | [], [] => True
  | i :: is, f :: fs => Unfolds i f ∧ UnfoldsAll is fs
  | _, _ => False

end

/-- Two arenas that unfold to the same figures are equal but for their numbers. -/
def SameForest (b : Arena α) : Prop := ∃ fs, a.UnfoldsAll a.roots fs ∧ b.UnfoldsAll b.roots fs

variable {a}

theorem exists_unfolds_of_mem : ∀ {is : List Nat} {fs : List (Figure α)}, a.UnfoldsAll is fs →
    ∀ {i}, i ∈ is → ∃ f ∈ fs, a.Unfolds i f
  | j :: is, f :: fs, h, i, hi => by
    rcases mem_cons.mp hi with rfl | hi
    · exact ⟨f, mem_cons_self, h.1⟩
    · obtain ⟨g, hg, hig⟩ := exists_unfolds_of_mem h.2 hi
      exact ⟨g, mem_cons_of_mem _ hg, hig⟩

theorem unfolds_iff {i : Nat} {f : Figure α} :
    a.Unfolds i f ↔
      ∃ s, a.get? i = some s ∧ s.element = f.element ∧ a.UnfoldsAll s.children f.children := by
  cases f
  rfl

theorem exists_unfolds_of_reachable {P : Element α → List (Figure α) → Prop} {fs : List (Figure α)}
    (h : a.UnfoldsAll a.roots fs) (hP : Figure.EveryOf P fs) {i : Nat} (hi : a.Reachable i) :
    ∃ f, a.Unfolds i f ∧ Figure.Every P f := by
  have step : ∀ {is : List Nat} {fs : List (Figure α)}, a.UnfoldsAll is fs → Figure.EveryOf P fs →
      ∀ j ∈ is, ∃ f, a.Unfolds j f ∧ Figure.Every P f := by
    intro is fs h hP j hj
    obtain ⟨f, hf, hjf⟩ := exists_unfolds_of_mem h hj
    exact ⟨f, hjf, Figure.everyOf_iff.mp hP f hf⟩
  induction hi with
  | root hi => exact step h hP _ hi
  | child _ hs hc ih =>
    obtain ⟨f, hf, hPf⟩ := ih
    obtain ⟨s, hs', _, hcs⟩ := unfolds_iff.mp hf
    cases hs'.symm.trans hs
    exact step hcs (Figure.every_iff.mp hPf).2 _ hc

variable (a) in
def Everywhere (Q : Element α → Prop) : Prop :=
  ∀ i s, a.Reachable i → a.get? i = some s → Q s.element

mutual

theorem every_of_everywhere {Q : Element α → Prop} (hQ : a.Everywhere Q) :
    ∀ (f : Figure α) {i : Nat}, a.Unfolds i f → a.Reachable i → Figure.Every (fun e _ => Q e) f
  | .node _ fs, i, ⟨s, hs, he, hfs⟩, hi =>
    ⟨he ▸ hQ i s hi hs, everyOf_of_everywhere hQ fs hfs fun _ hj => .child hi hs hj⟩

theorem everyOf_of_everywhere {Q : Element α → Prop} (hQ : a.Everywhere Q) :
    ∀ (fs : List (Figure α)) {is : List Nat}, a.UnfoldsAll is fs → (∀ i ∈ is, a.Reachable i) →
      Figure.EveryOf (fun e _ => Q e) fs
  | [], _, _, _ => trivial
  | f :: fs, i :: _, ⟨hf, hfs⟩, hi =>
    ⟨every_of_everywhere hQ f hf (hi i mem_cons_self),
      everyOf_of_everywhere hQ fs hfs fun j hj => hi j (mem_cons_of_mem _ hj)⟩

end

theorem everywhere_iff {Q : Element α → Prop} {fs : List (Figure α)}
    (h : a.UnfoldsAll a.roots fs) : a.Everywhere Q ↔ Figure.EveryOf (fun e _ => Q e) fs := by
  constructor
  · intro hQ
    exact everyOf_of_everywhere hQ fs h fun _ hi => .root hi
  · intro hQ i s hi hs
    obtain ⟨f, hf, hQf⟩ := exists_unfolds_of_reachable h hQ hi
    obtain ⟨t, ht, he, _⟩ := unfolds_iff.mp hf
    cases hs.symm.trans ht
    rw [he]
    exact (Figure.every_iff.mp hQf).1

end Arena

/-! ## Arenas as sources -/

namespace Figure

variable {α : Type}

mutual

def height : Figure α → Nat
  | node _ cs => heightOf cs + 1

def heightOf : List (Figure α) → Nat
  | [] => 0
  | f :: fs => max (height f) (heightOf fs)

end

mutual

def toSource : Figure α → Source α
  | node e cs => .node e.toDraft (toSources cs)

def toSources : List (Figure α) → List (Source α)
  | [] => []
  | f :: fs => toSource f :: toSources fs

end

mutual

theorem every_toSource {P : Element α → List (Figure α) → Prop} {D : Draft α → Prop}
    (hPD : ∀ e cs, P e cs → D e.toDraft) : ∀ {f : Figure α}, Every P f → Source.Every D f.toSource
  | node e cs, ⟨h, hcs⟩ => by
    rw [toSource]
    exact ⟨hPD e cs h, everyOf_toSources hPD hcs⟩

theorem everyOf_toSources {P : Element α → List (Figure α) → Prop} {D : Draft α → Prop}
    (hPD : ∀ e cs, P e cs → D e.toDraft) : ∀ {fs : List (Figure α)},
      EveryOf P fs → Source.EveryOf D (toSources fs)
  | [], _ => trivial
  | f :: fs, ⟨hf, hfs⟩ => by
    rw [toSources]
    exact ⟨every_toSource hPD hf, everyOf_toSources hPD hfs⟩

end

end Figure

namespace Arena

variable {α : Type} {a : Arena α}

theorem source?_zero {i : Nat} {s : Slot α} (hs : a.get? i = some s) :
    a.source? 0 i = some (.node s.element.toDraft []) := by
  rw [source?, hs]
  rfl

theorem source?_succ {i : Nat} {s : Slot α} (hs : a.get? i = some s) (n : Nat) :
    a.source? (n + 1) i = some (.node s.element.toDraft (s.children.filterMap (a.source? n))) := by
  rw [source?, hs]
  rfl

mutual

theorem source?_eq : ∀ (f : Figure α) {budget i : Nat}, a.Unfolds i f → f.height ≤ budget + 1 →
    a.source? budget i = some f.toSource
  | .node e fs, budget, i, ⟨s, hs, he, hfs⟩, hheight => by
    subst he
    rw [Figure.height] at hheight
    cases budget with
    | zero =>
      cases fs with
      | nil => rw [source?_zero hs, Figure.toSource, Figure.toSources]
      | cons f fs =>
        cases f
        simp [Figure.heightOf, Figure.height] at hheight
    | succ n =>
      have hkids : s.children.filterMap (a.source? n) = Figure.toSources fs :=
        filterMap_source?_eq fs hfs (by omega)
      rw [source?_succ hs, Figure.toSource, hkids]

theorem filterMap_source?_eq : ∀ (fs : List (Figure α)) {budget : Nat} {is : List Nat},
    a.UnfoldsAll is fs → Figure.heightOf fs ≤ budget + 1 →
      is.filterMap (a.source? budget) = Figure.toSources fs
  | [], _, [], _, _ => rfl
  | f :: fs, budget, i :: is, ⟨hf, hfs⟩, hheight => by
    rw [Figure.heightOf] at hheight
    rw [filterMap_cons, source?_eq f hf (by omega), Figure.toSources,
      filterMap_source?_eq fs hfs (by omega)]

end

end Arena

/-! ## The arena of a run -/

namespace Scene

variable {α : Type}

mutual

theorem height_figure_le : ∀ s : Scene α, s.figure.height ≤ s.numbers.length
  | node i e cs => by
    rw [figure, Figure.height, numbers, length_cons]
    exact Nat.succ_le_succ (heightOf_figures_le cs)

theorem heightOf_figures_le : ∀ ss : List (Scene α),
    Figure.heightOf (figures ss) ≤ (numbersOfAll ss).length
  | [] => Nat.le_refl _
  | s :: ss => by
    have hs := height_figure_le s
    have hss := heightOf_figures_le ss
    rw [figures, Figure.heightOf, numbersOfAll, length_append]
    omega

end

end Scene

namespace Arena

variable {α : Type} {a : Arena α}

mutual

theorem unfolds_figure (p : Option Nat) : ∀ (s : Scene α),
    (∀ {i t}, (i, t) ∈ Scene.slots p s → a.get? i = some t) → a.Unfolds s.slot s.figure
  | .node i e cs, h => by
    rw [Scene.figure]
    exact ⟨_, h mem_cons_self, rfl,
      unfoldsAll_figures (some i) cs fun hm => h (mem_cons_of_mem _ hm)⟩

theorem unfoldsAll_figures (p : Option Nat) : ∀ (ss : List (Scene α)),
    (∀ {i t}, (i, t) ∈ Scene.slotsOfAll p ss → a.get? i = some t) →
      a.UnfoldsAll (ss.map Scene.slot) (Scene.figures ss)
  | [], _ => trivial
  | s :: ss, h => by
    rw [map_cons, Scene.figures]
    exact ⟨unfolds_figure p s fun hm => h (mem_append_left _ hm),
      unfoldsAll_figures p ss fun hm => h (mem_append_right _ hm)⟩

end

namespace Holds

variable {scenes : List (Scene α)} (h : a.Holds scenes)
include h

theorem unfoldsAll : a.UnfoldsAll a.roots (Scene.figures scenes) := by
  rw [h.roots_eq]
  exact unfoldsAll_figures none scenes h.get?

theorem length_numbers_le : (Scene.numbersOfAll scenes).length ≤ a.size := by
  have hsub : Scene.numbersOfAll scenes ⊆ List.range a.size := by
    intro i hi
    obtain ⟨t, ht⟩ := (Scene.mem_numbersOfAll_iff none).mp hi
    exact mem_range.mpr (get?_lt (h.get? ht))
  simpa using (subperm_of_subset h.nodup hsub).length_le

theorem sources_eq : a.sources = Figure.toSources (Scene.figures scenes) := by
  -- no figure is higher than there are slots, so the budget reaches the bottom of each
  have hheight := Nat.le_trans (Scene.heightOf_figures_le scenes) h.length_numbers_le
  exact filterMap_source?_eq _ h.unfoldsAll (Nat.le_succ_of_le hheight)

end Holds

variable [Scalar α] [Circular α] (o : NormalizeOptions α) (ss : List (Source α))

/-- **The arena of a run unfolds to the figures of its sources.** -/
theorem restructure_unfoldsAll :
    (restructure o ss).UnfoldsAll (restructure o ss).roots (Source.figures o ss) := by
  have h := (restructure_holds o ss).unfoldsAll
  rwa [Scene.figures_eq_map, Source.buildAll_figures] at h

theorem sources_restructure :
    (restructure o ss).sources = Figure.toSources (Source.figures o ss) := by
  have h := (restructure_holds o ss).sources_eq
  rwa [Scene.figures_eq_map, Source.buildAll_figures] at h

end Arena

end Artboard
