import Artboard.Code.SwiftUi
import Artboard.Proofs.Extents

/-!
# Sizes in frames

A frame among the modifiers of a view names the axes it sets, to a length or to all there is.
Nothing else that a view is changed by is a frame.
-/

open List

namespace Artboard

/-! ## SwiftUI -/

def View.modifiers : View → List Modifier
  | leaf _ ms => ms
  | stack _ _ ms => ms

namespace SwiftUi

/-- What the frames among modifiers say of an axis. -/
def Says (ms : List Modifier) (axis : Axis) (main : Bool) : Extent → Prop
  | .fixed => ∃ m ∈ ms, m.name = "frame" ∧ ∃ l, (axis.extentName, .length l) ∈ m.arguments
  | .hug => ∀ m ∈ ms, m.name = "frame" →
      ∀ p ∈ m.arguments, p.1 ≠ axis.extentName ∧ p.1 ≠ greatestExtentName axis
  | .share => main = true ∧
      ∃ m ∈ ms, m.name = "frame" ∧ (greatestExtentName axis, .atom ".infinity") ∈ m.arguments
  | .stretch => main = false ∧
      ∃ m ∈ ms, m.name = "frame" ∧ (greatestExtentName axis, .atom ".infinity") ∈ m.arguments

theorem modifiers_view (c : Context) (site : Site Float) (children : List (Branch Float)) :
    (view c (.node site children)).modifiers = modifiers site c := by
  unfold view
  simp only
  split <;> rfl

def isFrame (m : Modifier) : Bool := m.name == "frame"

theorem filter_fill (x : Option Expr) :
    (x.map fun p => (⟨"fill", [("", p)]⟩ : Modifier)).toList.filter isFrame = [] := by
  cases x <;> simp [isFrame]

theorem filter_drawing (c : Context) (e : Element Float) : (drawing c e).filter isFrame = [] := by
  unfold drawing
  split
  · rename_i content hk
    have hspacing : (lineSpacing (e.textRuns c)).filter isFrame = [] := by
      unfold lineSpacing
      split
      · rfl
      · rename_i r rs hruns
        cases r.lineHeight.pixels? r.size with
        | none => rfl
        | some h => by_cases hlt : r.size < h <;> simp [hlt, isFrame]
    unfold textModifiers
    rw [filter_append, hspacing]
    cases content.alignHorizontal <;> simp [isFrame]
  · simp [isFrame]
  · exact filter_fill _
  · rfl
  · rfl
  · exact filter_fill _

theorem filter_padding (l : Option (ContainerLayout Float)) :
    ((l.map fun l => padding l.padding).getD []).filter isFrame = [] := by
  cases l with
  | none => rfl
  | some l =>
    simp only [Option.map_some, Option.getD_some]
    unfold padding
    split
    · rfl
    · split <;> simp [isFrame]

theorem filter_backdrop (e : Element Float) : (backdrop e).filter isFrame = [] := by
  have hshown : ((fill? e).map fun p => (⟨"background", [("", p)]⟩ : Modifier)).toList.filter
      isFrame = [] := by
    cases fill? e <;> simp [isFrame]
  have hclipping : (clipping e).filter isFrame = [] := by
    unfold clipping
    split
    · split <;> simp [isFrame]
    · simp [isFrame]
  unfold backdrop
  split
  · rw [filter_append, hshown, hclipping]
    rfl
  · rw [filter_append, hshown, hclipping]
    rfl
  · rfl

theorem filter_stroke (e : Element Float) : (stroke e).filter isFrame = [] := by
  unfold stroke
  split
  · rfl
  · rfl
  · rfl
  · cases e.stroke? <;> simp [isFrame]

theorem filter_effects (effects : List Effect) : (effects.flatMap effect).filter isFrame = [] := by
  apply filter_eq_nil_iff.mpr
  intro m hm
  obtain ⟨x, _, hx⟩ := mem_flatMap.mp hm
  cases x <;> simp [effect] at hx <;> simp [hx, isFrame]

theorem filter_blending (e : Element Float) : (blending e).filter isFrame = [] := by
  unfold blending
  by_cases h : e.props.opacity < 1 <;> cases e.props.blendMode.keyword? <;> simp [h, isFrame]

section
variable (site : Site Float)

theorem filter_placement : (placement site).filter isFrame = [] := by
  unfold placement
  rw [filter_append, append_eq_nil_iff]
  constructor
  · split <;> simp [isFrame]
  · split <;> simp [isFrame]

theorem filter_frame (e : Element Float) (extents : List Argument) :
    (frame e extents).filter isFrame = frame e extents := by
  unfold frame
  by_cases h : extents.isEmpty = true <;> simp [h, isFrame]

theorem filter_modifiers (c : Context) : (modifiers site c).filter isFrame = frames site := by
  unfold modifiers frames
  simp only [filter_append, filter_drawing, filter_padding, filter_frame, filter_backdrop,
    filter_stroke, filter_effects, filter_blending, filter_placement, nil_append, append_nil]

variable {site}

theorem mem_frame_iff {e : Element Float} {extents : List Argument} {p : Argument}
    (h : p.1 ≠ "alignment") : (∃ m ∈ frame e extents, p ∈ m.arguments) ↔ p ∈ extents := by
  have halign : ∀ content : Option TextContent, p ∉ (content.map fun t =>
      ("alignment", Expr.atom (textAlignment t.alignHorizontal))).toList := by
    intro content hp
    cases content with
    | none => simp at hp
    | some t =>
      simp only [Option.map_some, Option.toList_some, mem_singleton] at hp
      exact h (by rw [hp])
  unfold frame
  by_cases hempty : extents.isEmpty = true
  · rw [isEmpty_iff.mp hempty]
    simp
  · simp [hempty, halign]

theorem mem_frames_iff {c : Context} {p : Argument} (h : p.1 ≠ "alignment") :
    (∃ m ∈ modifiers site c, m.name = "frame" ∧ p ∈ m.arguments) ↔
      ∃ axis, p ∈ fixedExtent site axis ∨ p ∈ filledExtent site axis := by
  have hframes : (∃ m ∈ modifiers site c, m.name = "frame" ∧ p ∈ m.arguments) ↔
      ∃ m ∈ frames site, p ∈ m.arguments := by
    rw [← filter_modifiers site c]
    simp [isFrame, and_assoc]
  rw [hframes]
  unfold frames
  simp only [mem_append, or_and_right, exists_or, mem_frame_iff h]
  constructor
  · rintro ((h | h) | h | h)
    · exact .inl ⟨_, h⟩
    · exact .inl ⟨_, h⟩
    · exact .inr ⟨_, h⟩
    · exact .inr ⟨_, h⟩
  · rintro (⟨axis, h⟩ | ⟨axis, h⟩) <;> cases axis <;> simp [h]

end

section
variable {site : Site Float} {axis other : Axis} {v : Expr}

theorem mem_fixedExtent_iff : (axis.extentName, v) ∈ fixedExtent site other ↔
    other = axis ∧
      ∃ l, site.sizing axis = .fixed l ∧ v = .length (site.element.drawnLength axis l) := by
  unfold fixedExtent
  cases hs : site.sizing other <;> cases axis <;> cases other <;> simp [hs, Axis.extentName]

theorem mem_filledExtent_iff : (greatestExtentName axis, v) ∈ filledExtent site other ↔
    other = axis ∧ site.sizing axis = .fill ∧ v = .atom ".infinity" := by
  unfold filledExtent
  cases hs : site.sizing other <;> cases axis <;> cases other <;> simp [hs, greatestExtentName]

theorem extentName_notMem_filledExtent : (axis.extentName, v) ∉ filledExtent site other := by
  unfold filledExtent
  cases site.sizing other <;> cases axis <;> cases other <;>
    simp [Axis.extentName, greatestExtentName]

theorem greatestExtentName_notMem_fixedExtent :
    (greatestExtentName axis, v) ∉ fixedExtent site other := by
  unfold fixedExtent
  cases site.sizing other <;> cases axis <;> cases other <;>
    simp [Axis.extentName, greatestExtentName]

theorem exists_fixed_iff (c : Context) :
    (∃ m ∈ modifiers site c, m.name = "frame" ∧ (axis.extentName, v) ∈ m.arguments) ↔
      ∃ l, site.sizing axis = .fixed l ∧ v = .length (site.element.drawnLength axis l) := by
  have hname : axis.extentName ≠ "alignment" := by cases axis <;> simp [Axis.extentName]
  rw [mem_frames_iff hname]
  simp [mem_fixedExtent_iff, extentName_notMem_filledExtent]

theorem exists_filled_iff (c : Context) :
    (∃ m ∈ modifiers site c, m.name = "frame" ∧ (greatestExtentName axis, v) ∈ m.arguments) ↔
      site.sizing axis = .fill ∧ v = .atom ".infinity" := by
  have hname : greatestExtentName axis ≠ "alignment" := by
    cases axis <;> simp [greatestExtentName]
  rw [mem_frames_iff hname]
  simp [mem_filledExtent_iff, greatestExtentName_notMem_fixedExtent]

end

theorem says_iff (c : Context) (site : Site Float) (children : List (Branch Float)) (axis : Axis)
    (x : Extent) : Says (view c (.node site children)).modifiers axis (site.isMainAxis axis) x ↔
      site.extent axis = x := by
  rw [modifiers_view]
  cases x with
  | fixed =>
    rw [Site.extent_eq_fixed_iff, Says]
    constructor
    · rintro ⟨m, hm, hname, l, hl⟩
      obtain ⟨l', hl', _⟩ := (exists_fixed_iff c).mp ⟨m, hm, hname, hl⟩
      exact ⟨l', hl'⟩
    · rintro ⟨l, hl⟩
      obtain ⟨m, hm, hname, hmem⟩ := (exists_fixed_iff c).mpr ⟨l, hl, rfl⟩
      exact ⟨m, hm, hname, _, hmem⟩
  | hug =>
    rw [Site.extent_eq_hug_iff, Says]
    constructor
    · intro h
      cases hs : site.sizing axis with
      | fixed l =>
        obtain ⟨m, hm, hname, hmem⟩ := (exists_fixed_iff c).mpr ⟨l, hs, rfl⟩
        exact absurd rfl (h m hm hname _ hmem).1
      | hug => rfl
      | fill =>
        obtain ⟨m, hm, hname, hmem⟩ := (exists_filled_iff c).mpr ⟨hs, rfl⟩
        exact absurd rfl (h m hm hname _ hmem).2
    · rintro hs m hm hname ⟨label, v⟩ hp
      constructor
      · rintro rfl
        obtain ⟨l, hl, _⟩ := (exists_fixed_iff c).mp ⟨m, hm, hname, hp⟩
        rw [hs] at hl
        cases hl
      · rintro rfl
        obtain ⟨hfill, _⟩ := (exists_filled_iff c).mp ⟨m, hm, hname, hp⟩
        rw [hs] at hfill
        cases hfill
  | share =>
    rw [Site.extent_eq_share_iff, Says, exists_filled_iff]
    simp
  | stretch =>
    rw [Site.extent_eq_stretch_iff, Says, exists_filled_iff]
    simp

end SwiftUi

end Artboard
