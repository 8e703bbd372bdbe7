import Artboard.Proofs.Outline
import Artboard.Scene.Sizing

/-!
# Filling and hugging

Every child in the arena of a run has settled under the flow of the slot that lists it, however it
came to be listed there. So the sizing of every reachable slot can be told on both axes, and a
container that fills what it lies in does not hug.
-/

open List

namespace Artboard

namespace Element

variable {α : Type} [Scalar α]

theorem exists_claimsFill_of_sizing {parent : Option Flow} {e : Element α} {axis : Axis}
    (h : e.sizing parent axis = .fill) : ∃ f, parent = some f ∧ claimsFill f e axis = true := by
  unfold sizing at h
  split at h
  · rename_i hfill
    cases parent with
    | none => cases hfill
    | some f => exact ⟨f, rfl, by simpa using hfill⟩
  · split at h
    · split at h <;> cases h
    · cases h

theorem sizing_fixed_of_settle_eq {f : Flow} {e : Element α} {l : ContainerLayout α} {axis : Axis}
    (hs : e.settle f = e) (hl : e.kind = .container l) (hfill : claimsFill f e axis = true) :
    l.sizing axis = .fixed := by
  have hlayout : e.settledLayout f l = l := by
    rw [settle_of_container f hl] at hs
    have hkind := congrArg kind hs
    rw [hl] at hkind
    exact Kind.container.inj hkind
  rw [← hlayout]
  cases axis with
  | horizontal =>
    simp only [settledLayout, ContainerLayout.sizing, SizingMode.under, hfill]
    cases l.horizontalSizing <;> rfl
  | vertical =>
    simp only [settledLayout, ContainerLayout.sizing, SizingMode.under, hfill]
    cases l.verticalSizing <;> rfl

end Element

namespace Figure

variable {α : Type} [Scalar α] {o : NormalizeOptions α}

theorem IsFit.settle_eq {e : Element α} {cs : List (Figure α)} (h : IsFit o e cs) {g : Figure α}
    (hg : g ∈ cs) : g.element.settle e.flow = g.element := by
  obtain ⟨kind, props⟩ := e
  cases kind with
  | container l => exact h.2 g hg
  | group => exact Element.settle_of_isFlow_eq_false rfl g.element
  | _ =>
    have hnil : cs = [] := h
    rw [hnil] at hg
    cases hg

end Figure

namespace Arena

variable {α : Type} [Scalar α] {a : Arena α}

omit [Scalar α] in
theorem parentFlow_some {p : Nat} {s : Slot α} (hs : a.get? p = some s) :
    a.parentFlow (some p) = .ok (some s.element.flow) := by
  simp only [parentFlow, get, hs]
  rfl

theorem axisSizing_eq {i : Nat} {s : Slot α} (hs : a.get? i = some s) {parent : Option Flow}
    (hp : a.parentFlow s.parent = .ok parent) (axis : Axis) :
    a.axisSizing i axis = .ok (s.element.sizing parent axis) := by
  unfold axisSizing get
  rw [hs]
  change (a.parentFlow s.parent >>= _) = _
  rw [hp]
  rfl

variable [Circular α] (o : NormalizeOptions α) (ss : List (Source α))

theorem settle_eq_of_child {p c : Nat} {s t : Slot α} (hp : (restructure o ss).Reachable p)
    (hs : (restructure o ss).get? p = some s) (hc : c ∈ s.children)
    (ht : (restructure o ss).get? c = some t) : t.element.settle s.element.flow = t.element := by
  obtain ⟨f, hf, hfit⟩ := exists_unfolds_of_reachable (restructure_unfoldsAll o ss)
    (Figure.isFit_figures o ss) hp
  obtain ⟨s', hs', he, hcs⟩ := unfolds_iff.mp hf
  cases hs.symm.trans hs'
  obtain ⟨g, hg, hcg⟩ := exists_unfolds_of_mem hcs hc
  obtain ⟨t', ht', he', _⟩ := unfolds_iff.mp hcg
  cases ht.symm.trans ht'
  rw [he, he']
  exact (Figure.every_iff.mp hfit).1.settle_eq hg

theorem exists_settled {i : Nat} (hi : (restructure o ss).Reachable i) :
    ∃ s parent, (restructure o ss).get? i = some s ∧
      (restructure o ss).parentFlow s.parent = .ok parent ∧
      ∀ f, parent = some f → s.element.settle f = s.element := by
  have hholds := restructure_holds o ss
  cases hi with
  | root hroot =>
    obtain ⟨s, hs, hnone⟩ := hholds.parent_of_root hroot
    refine ⟨s, none, hs, ?_, nofun⟩
    rw [hnone]
    rfl
  | @child p _ t hp ht hc =>
    obtain ⟨s, hs, hparent⟩ := hholds.names_of_lists hp ⟨t, ht, hc⟩
    refine ⟨s, some t.element.flow, hs, ?_, fun f hf => ?_⟩
    · rw [hparent]
      exact parentFlow_some ht
    · cases hf
      exact settle_eq_of_child o ss hp ht hc hs

end Arena

/-- **Fill and hug never meet.** -/
theorem normalize_fill_isFixed {α : Type} [Scalar α] [Circular α] (o : NormalizeOptions α)
    (c : Context) (selection : List (HostNode α)) {a : Arena α}
    (h : (normalizeInto o c selection).1 = .ok a) :
    ∀ i, a.Reachable i → ∀ axis, ∃ s r, a.get? i = some s ∧ a.axisSizing i axis = .ok r ∧
      (r = .fill → ∀ l, s.element.kind = .container l → l.sizing axis = .fixed) := by
  obtain ⟨_, rfl⟩ := normalizeSources_eq_ok_iff.mp h
  intro i hi axis
  obtain ⟨s, parent, hs, hp, hsettled⟩ := Arena.exists_settled o _ hi
  refine ⟨s, _, hs, Arena.axisSizing_eq hs hp axis, fun hfill l hl => ?_⟩
  obtain ⟨f, hf, hclaims⟩ := Element.exists_claimsFill_of_sizing hfill
  exact Element.sizing_fixed_of_settle_eq (hsettled f hf) hl hclaims

theorem toolbar_fill_isFixed : ∃ a : Arena Float,
    (normalizeInto default .empty toolbar).1 = .ok a ∧ a.Reachable 2 ∧
      ∃ s l, a.get? 2 = some s ∧ s.element.kind = .container l ∧
        a.axisSizing 2 .horizontal = .ok .fill ∧ l.sizing .horizontal = .fixed ∧
          a.axisSizing 2 .vertical = .ok .hug := by
  have hholds := Arena.restructure_holds default (HostNode.toSources toolbar)
  have hrow := hholds.get? (i := 0) mem_cons_self
  have hcolumn := hholds.get? (i := 2) (mem_cons_of_mem _ mem_cons_self)
  have hreach := Arena.Reachable.child (.root (by exact mem_cons_self)) hrow mem_cons_self
  have hsizing := Arena.axisSizing_eq hcolumn (Arena.parentFlow_some hrow)
  obtain ⟨s, r, hs, hr, hfixed⟩ :=
    normalize_fill_isFixed default .empty toolbar rfl 2 hreach .horizontal
  cases hs.symm.trans hcolumn
  cases hr.symm.trans (hsizing .horizontal)
  exact ⟨_, rfl, hreach, _, _, hcolumn, rfl, hsizing .horizontal, hfixed rfl _ rfl,
    hsizing .vertical⟩

end Artboard
