import Artboard.Normal.Restructure

/-!
# Settling

An element that settles under a flow changes nothing but the sizing of its own layout, and settling
twice under one flow is settling once.
-/

namespace Artboard

namespace SizingMode

def under (filled : Bool) (m : SizingMode) : SizingMode :=
  if filled && m = .hug then .fixed else m

theorem under_under (filled : Bool) (m : SizingMode) :
    (m.under filled).under filled = m.under filled := by
  cases filled <;> cases m <;> rfl

end SizingMode

namespace Element

variable {α : Type} [Scalar α] (f : Flow)

theorem settleAxis_of_container {e : Element α} {l : ContainerLayout α} (axis : Axis)
    (h : e.kind = .container l) :
    e.settleAxis f axis =
      { e with kind := .container (l.setSizing ((l.sizing axis).under (e.claimsFill f axis)) axis) } := by
  obtain ⟨kind, props⟩ := e
  cases h
  simp only [settleAxis, SizingMode.under]
  split
  · rfl
  · cases axis <;> rfl

theorem settleAxis_of_layout?_eq_none {e : Element α} (axis : Axis) (h : e.kind.layout? = none) :
    e.settleAxis f axis = e := by
  obtain ⟨kind, props⟩ := e
  cases kind with
  | container l => cases h
  | _ => rfl

def settledLayout (e : Element α) (l : ContainerLayout α) : ContainerLayout α :=
  { l with
    horizontalSizing := l.horizontalSizing.under (e.claimsFill f .horizontal)
    verticalSizing := l.verticalSizing.under (e.claimsFill f .vertical) }

theorem settle_of_container {e : Element α} {l : ContainerLayout α} (h : e.kind = .container l) :
    e.settle f = { e with kind := .container (e.settledLayout f l) } := by
  rw [settle, settleAxis_of_container f .horizontal h, settleAxis_of_container f .vertical rfl]
  rfl

theorem settle_of_layout?_eq_none {e : Element α} (h : e.kind.layout? = none) :
    e.settle f = e := by
  rw [settle, settleAxis_of_layout?_eq_none f _ h, settleAxis_of_layout?_eq_none f _ h]

theorem container_or_settle_eq (e : Element α) :
    (∃ l, e.kind = .container l) ∨ e.settle f = e := by
  cases h : e.kind with
  | container l => exact .inl ⟨l, rfl⟩
  | _ => exact .inr (settle_of_layout?_eq_none f (by rw [h]; rfl))

@[simp] theorem props_settle (e : Element α) : (e.settle f).props = e.props := by
  rcases container_or_settle_eq f e with ⟨l, h⟩ | h
  · rw [settle_of_container f h]
  · rw [h]

theorem settle_of_isFlow_eq_false {f : Flow} (h : f.isFlow = false) (e : Element α) :
    e.settle f = e := by
  have hnone : f.mainAxis = none := by
    cases f with
    | free => rfl
    | row => cases h
    | column => cases h
  rcases container_or_settle_eq f e with ⟨l, hl⟩ | he
  · rw [settle_of_container f hl]
    simp only [settledLayout, claimsFill, hnone]
    obtain ⟨kind, props⟩ := e
    cases hl
    rfl
  · exact he

theorem settle_settle (e : Element α) : (e.settle f).settle f = e.settle f := by
  rcases container_or_settle_eq f e with ⟨l, h⟩ | h
  · rw [settle_of_container f h, settle_of_container f rfl]
    simp only [settledLayout, claimsFill, SizingMode.under_under]
  · rw [h, h]

end Element

end Artboard
