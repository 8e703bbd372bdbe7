import Artboard.Proofs.Filling
import Artboard.Proofs.Pieces

/-!
# Sizes in documents

Both document formats write the sizing of an element in words of their own. Those for a part of the
parent name no axis, but only one axis can be meant: so the words on a branch's own tag say of
either axis how the element is sized. Nothing else on the tag has a say in the place of the element
but what comes from where it stands.
-/

open List

namespace Artboard

/-- How an element takes its place along an axis. One that fills its parent has a share of the main
axis, or is stretched across. -/
inductive Extent
  | fixed
  | hug
  | share
  | stretch
  deriving DecidableEq, Repr

def AxisSizing.extent {α : Type} (main : Bool) : AxisSizing α → Extent
  | fixed _ => .fixed
  | hug => .hug
  | fill => if main then .share else .stretch

namespace Site

variable {α : Type} [Scalar α] {site : Site α} {axis : Axis}

def extent (site : Site α) (axis : Axis) : Extent :=
  (site.sizing axis).extent (site.isMainAxis axis)

theorem extent_eq_fixed_iff : site.extent axis = .fixed ↔ ∃ l, site.sizing axis = .fixed l := by
  unfold extent
  cases site.sizing axis <;> cases site.isMainAxis axis <;> simp [AxisSizing.extent]

theorem extent_eq_hug_iff : site.extent axis = .hug ↔ site.sizing axis = .hug := by
  unfold extent
  cases site.sizing axis <;> cases site.isMainAxis axis <;> simp [AxisSizing.extent]

theorem extent_eq_share_iff :
    site.extent axis = .share ↔ site.isMainAxis axis = true ∧ site.sizing axis = .fill := by
  unfold extent
  cases site.sizing axis <;> cases site.isMainAxis axis <;> simp [AxisSizing.extent]

theorem extent_eq_stretch_iff :
    site.extent axis = .stretch ↔ site.isMainAxis axis = false ∧ site.sizing axis = .fill := by
  unfold extent
  cases site.sizing axis <;> cases site.isMainAxis axis <;> simp [AxisSizing.extent]

omit [Scalar α] in
theorem isMainAxis_iff :
    site.isMainAxis axis = true ↔ site.parentFlow.bind Flow.mainAxis = some axis := by
  simp [isMainAxis]

theorem exists_isMainAxis (h : site.sizing axis = .fill) : ∃ main, site.isMainAxis main = true := by
  obtain ⟨f, hf, hfill⟩ := Element.exists_claimsFill_of_sizing h
  cases hmain : f.mainAxis with
  | none => simp [Element.claimsFill, hmain] at hfill
  | some main => exact ⟨main, by simp [isMainAxis, hf, hmain]⟩

theorem exists_share_iff :
    site.isMainAxis axis = true ∧ (∃ other, site.extent other = .share) ↔
      site.extent axis = .share := by
  constructor
  · rintro ⟨hmain, other, hother⟩
    have hsame := (extent_eq_share_iff.mp hother).1
    rw [isMainAxis_iff] at hmain hsame
    rw [hmain] at hsame
    cases hsame
    exact hother
  · intro h
    exact ⟨(extent_eq_share_iff.mp h).1, axis, h⟩

theorem exists_stretch_iff :
    site.isMainAxis axis = false ∧ (∃ other, site.extent other = .stretch) ↔
      site.extent axis = .stretch := by
  constructor
  · rintro ⟨hcross, other, hother⟩
    obtain ⟨hother', hfill⟩ := extent_eq_stretch_iff.mp hother
    obtain ⟨main, hmain⟩ := exists_isMainAxis hfill
    -- neither is the main axis, and there are only two
    have hsame : other = axis := by
      cases main <;> cases other <;> cases axis <;> simp_all
    rwa [← hsame]
  · intro h
    exact ⟨(extent_eq_stretch_iff.mp h).1, axis, h⟩

end Site

/-- How an element is positioned. Offsets count from the nearest element around that is not
static. -/
inductive Position
  | absolute
  | relative
  | static
  deriving DecidableEq, Repr

def Site.position {α : Type} (site : Site α) : Position :=
  if site.isAbsolute then .absolute else if site.hostsAbsolute then .relative else .static

/-! ## Words for sizes -/

/-- The words of a format that styles documents. Those for a part of the parent name no axis. -/
structure SizeWords (β : Type) where
  fixed : Axis → Float → β
  hug : Axis → β
  share : β
  stretch : β

namespace SizeWords

variable {β : Type} (w : SizeWords β)

def write (site : Site Float) (axis : Axis) : List β :=
  match site.sizing axis with
  | .fixed l => [w.fixed axis l]
  | .hug => [w.hug axis]
  | .fill => if site.isMainAxis axis then [w.share] else [w.stretch]

/-- What a list of pieces says of an axis, which may be the main axis of the parent. -/
def Says (code : List β) (axis : Axis) (main : Bool) : Extent → Prop
  | .fixed => ∃ l, w.fixed axis l ∈ code
  | .hug => w.hug axis ∈ code
  | .share => main = true ∧ w.share ∈ code
  | .stretch => main = false ∧ w.stretch ∈ code

structure Distinct : Prop where
  fixed_axis : ∀ {a b l m}, w.fixed a l = w.fixed b m → a = b
  hug_axis : ∀ {a b}, w.hug a = w.hug b → a = b
  fixed_ne_hug : ∀ a l b, w.fixed a l ≠ w.hug b
  fixed_ne_share : ∀ a l, w.fixed a l ≠ w.share
  fixed_ne_stretch : ∀ a l, w.fixed a l ≠ w.stretch
  hug_ne_share : ∀ a, w.hug a ≠ w.share
  hug_ne_stretch : ∀ a, w.hug a ≠ w.stretch
  share_ne_stretch : w.share ≠ w.stretch

namespace Distinct

variable {w} (hw : w.Distinct) {site : Site Float} {axis other : Axis}
include hw

theorem fixed_mem_write {l : Float} (h : w.fixed axis l ∈ w.write site other) :
    other = axis ∧ ∃ m, site.sizing axis = .fixed m := by
  unfold write at h
  cases hs : site.sizing other with
  | fixed m =>
    simp only [hs, mem_singleton] at h
    cases hw.fixed_axis h
    exact ⟨rfl, m, hs⟩
  | hug =>
    simp only [hs, mem_singleton] at h
    exact absurd h (hw.fixed_ne_hug _ _ _)
  | fill =>
    by_cases hmain : site.isMainAxis other = true
    · simp only [hs, hmain, ite_true, mem_singleton] at h
      exact absurd h (hw.fixed_ne_share _ _)
    · simp only [hs, hmain, Bool.false_eq_true, ite_false, mem_singleton] at h
      exact absurd h (hw.fixed_ne_stretch _ _)

theorem hug_mem_write (h : w.hug axis ∈ w.write site other) :
    other = axis ∧ site.sizing axis = .hug := by
  unfold write at h
  cases hs : site.sizing other with
  | fixed m =>
    simp only [hs, mem_singleton] at h
    exact absurd h.symm (hw.fixed_ne_hug _ _ _)
  | hug =>
    simp only [hs, mem_singleton] at h
    cases hw.hug_axis h
    exact ⟨rfl, hs⟩
  | fill =>
    by_cases hmain : site.isMainAxis other = true
    · simp only [hs, hmain, ite_true, mem_singleton] at h
      exact absurd h (hw.hug_ne_share _)
    · simp only [hs, hmain, Bool.false_eq_true, ite_false, mem_singleton] at h
      exact absurd h (hw.hug_ne_stretch _)

theorem share_mem_write_iff : w.share ∈ w.write site axis ↔ site.extent axis = .share := by
  rw [Site.extent_eq_share_iff]
  unfold write
  cases hs : site.sizing axis with
  | fixed m => simp [(hw.fixed_ne_share axis m).symm]
  | hug => simp [(hw.hug_ne_share axis).symm]
  | fill => by_cases hmain : site.isMainAxis axis = true <;> simp [hmain, hw.share_ne_stretch]

theorem stretch_mem_write_iff : w.stretch ∈ w.write site axis ↔ site.extent axis = .stretch := by
  rw [Site.extent_eq_stretch_iff]
  unfold write
  cases hs : site.sizing axis with
  | fixed m => simp [(hw.fixed_ne_stretch axis m).symm]
  | hug => simp [(hw.hug_ne_stretch axis).symm]
  | fill => by_cases hmain : site.isMainAxis axis = true <;> simp [hmain, hw.share_ne_stretch.symm]

theorem says_iff {code : List β} {isWord : β → Bool} (hfixed : ∀ a l, isWord (w.fixed a l) = true)
    (hhug : ∀ a, isWord (w.hug a) = true) (hshare : isWord w.share = true)
    (hstretch : isWord w.stretch = true)
    (hcode : code.filter isWord = w.write site .horizontal ++ w.write site .vertical)
    (axis : Axis) (x : Extent) :
    w.Says code axis (site.isMainAxis axis) x ↔ site.extent axis = x := by
  -- so a word is in the code if it was written for one of the axes
  have hmem : ∀ d, isWord d = true → (d ∈ code ↔ ∃ other, d ∈ w.write site other) := by
    intro d hd
    have hd' : d ∈ code.filter isWord ↔ d ∈ code := by simp [hd]
    rw [← hd', hcode, mem_append]
    constructor
    · rintro (h | h)
      · exact ⟨_, h⟩
      · exact ⟨_, h⟩
    · rintro ⟨other, h⟩
      cases other
      · exact .inl h
      · exact .inr h
  cases x with
  | fixed =>
    rw [Site.extent_eq_fixed_iff, Says]
    constructor
    · rintro ⟨l, hl⟩
      obtain ⟨other, hother⟩ := (hmem _ (hfixed axis l)).mp hl
      exact (hw.fixed_mem_write hother).2
    · rintro ⟨l, hl⟩
      exact ⟨l, (hmem _ (hfixed axis l)).mpr ⟨axis, by simp [write, hl]⟩⟩
  | hug =>
    rw [Site.extent_eq_hug_iff, Says, hmem _ (hhug axis)]
    constructor
    · rintro ⟨other, hother⟩
      exact (hw.hug_mem_write hother).2
    · intro h
      exact ⟨axis, by simp [write, h]⟩
  | share =>
    rw [Says, hmem _ hshare, ← Site.exists_share_iff]
    simp only [hw.share_mem_write_iff]
  | stretch =>
    rw [Says, hmem _ hstretch, ← Site.exists_stretch_iff]
    simp only [hw.stretch_mem_write_iff]

end Distinct

end SizeWords

theorem filter_filter_of_imp {β : Type} {p q : β → Bool} (h : ∀ x, p x = true → q x = true)
    (l : List β) : l.filter p = (l.filter q).filter p := by
  rw [filter_filter]
  apply filter_congr
  intro x _
  cases hp : p x with
  | false => rfl
  | true => rw [h x hp]; rfl

/-! ## HTML with inline styles -/

namespace Html

def written (c : Context) (site : Site Float) : List Declaration :=
  match site.element.kind with
  | .text content =>
    declarations site ++ (textDeclarations content ++
      match site.element.textRuns c with
      | [r] => runDeclarations r
      | _ => [])
  | _ => declarations site

theorem pieces_eq (c : Context) (site : Site Float) :
    styling.pieces c site = (written c site).map Declaration.text := by
  unfold Markup.Styling.pieces written
  cases site.element.kind with
  | text content =>
    simp only [map_append]
    match site.element.textRuns c with
    | [] => rfl
    | [_] => rfl
    | _ :: _ :: _ => rfl
  | _ => rfl

def words : SizeWords Declaration where
  fixed axis l := ⟨axis.extentName, px l⟩
  hug axis := ⟨axis.extentName, "fit-content"⟩
  share := ⟨"flex", "1 1 0"⟩
  stretch := ⟨"align-self", "stretch"⟩

def isSizing (d : Declaration) : Bool :=
  d.property == "width" || d.property == "height" || d.property == "flex" ||
    d.property == "align-self"

def isPlacing (d : Declaration) : Bool := isSizing d || d.property == "position"

def anchor : Position → List Declaration
  | .absolute => [⟨"position", "absolute"⟩]
  | .relative => [⟨"position", "relative"⟩]
  | .static => []

section
variable (site : Site Float)

theorem filter_turn : (turn site).filter isPlacing = [] := by
  unfold turn
  by_cases h : site.element.props.geometry.isRotated = true <;> simp [h, isPlacing, isSizing]

theorem filter_position : (position site).filter isPlacing = anchor site.position := by
  unfold position Site.position
  rw [filter_append, filter_turn, append_nil]
  by_cases habs : site.isAbsolute = true
  · simp [habs, anchor, isPlacing, isSizing]
  · by_cases hhost : site.hostsAbsolute = true <;>
      simp [habs, hhost, anchor, isPlacing, isSizing]

theorem isSizing_of_mem_sizing {axis : Axis} {d : Declaration} (hd : d ∈ sizing site axis) :
    isSizing d = true := by
  unfold sizing at hd
  cases hs : site.sizing axis with
  | fill =>
    by_cases hmain : site.isMainAxis axis = true <;> simp [hs, hmain] at hd <;> simp [hd, isSizing]
  | _ =>
    simp only [hs, mem_singleton] at hd
    cases axis <;> simp [hd, isSizing, Axis.extentName]

theorem filter_sizing (axis : Axis) : (sizing site axis).filter isPlacing = sizing site axis := by
  apply filter_eq_self.mpr
  intro d hd
  simp [isPlacing, isSizing_of_mem_sizing site hd]

end

theorem filter_flow (l : ContainerLayout Float) : (flow l).filter isPlacing = [] := by
  unfold flow
  cases l.flow.mainAxis with
  | none => rfl
  | some main => by_cases h : 0 < l.itemSpacing <;> simp [h, isPlacing, isSizing]

theorem filter_padding (l : ContainerLayout Float) : (padding l.padding).filter isPlacing = [] := by
  unfold padding
  by_cases h : l.padding.isZero = true <;> simp [h, isPlacing, isSizing]

theorem filter_layout (l : ContainerLayout Float) : (layout l).filter isPlacing = [] := by
  unfold layout
  rw [filter_append, filter_append, filter_flow, filter_padding]
  by_cases h : l.clips = true <;> simp [h, isPlacing, isSizing]

theorem filter_backgrounds (e : Element Float) : (backgrounds e).filter isPlacing = [] := by
  unfold backgrounds
  by_cases h : e.isText = true
  · simp [h]
  · cases e.props.fills.getLast? with
    | none => simp [h]
    | some p => cases p <;> simp [h, background, isPlacing, isSizing]

theorem filter_border (e : Element Float) : (border e).filter isPlacing = [] := by
  unfold border
  cases e.stroke? with
  | none => rfl
  | some s =>
    simp only
    split <;> simp [isPlacing, isSizing]

theorem filter_radius (e : Element Float) : (radius e).filter isPlacing = [] := by
  unfold radius
  split
  · simp [isPlacing, isSizing]
  · by_cases h : e.props.cornerRadii.isZero = true
    · simp [h]
    · simp only [h]
      cases e.props.cornerRadii <;> simp [isPlacing, isSizing]

theorem filter_blending (e : Element Float) : (blending e).filter isPlacing = [] := by
  unfold blending
  by_cases h : e.props.opacity < 1 <;> cases e.props.blendMode.keyword? <;>
    simp [h, isPlacing, isSizing]

theorem filter_blurs (e : Element Float) : (blurs e).filter isPlacing = [] := by
  apply filter_eq_nil_iff.mpr
  intro d hd
  obtain ⟨effect, _, heffect⟩ := mem_filterMap.mp hd
  cases effect <;> simp at heffect <;> simp [← heffect, isPlacing, isSizing]

theorem filter_effects (e : Element Float) : (effects e).filter isPlacing = [] := by
  unfold effects
  rw [filter_append, filter_blurs]
  by_cases h : (shadows e).isEmpty = true <;> by_cases ht : e.isText = true <;>
    simp [h, ht, isPlacing, isSizing]

theorem filter_appearance (e : Element Float) : (appearance e).filter isPlacing = [] := by
  unfold appearance
  rw [filter_append, filter_append, filter_append, filter_append, filter_backgrounds,
    filter_border, filter_radius, filter_blending, filter_effects]
  rfl

theorem filter_textDeclarations (content : TextContent) :
    (textDeclarations content).filter isPlacing = [] := by
  unfold textDeclarations
  cases content.alignHorizontal <;> simp [textAlign, isPlacing, isSizing]

theorem filter_runDeclarations (r : TextRun) : (runDeclarations r).filter isPlacing = [] := by
  unfold runDeclarations
  simp only [filter_append, append_eq_nil_iff]
  refine ⟨⟨⟨⟨⟨⟨⟨?_, ?_⟩, ?_⟩, ?_⟩, ?_⟩, ?_⟩, ?_⟩, ?_⟩
  · simp [isPlacing, isSizing]
  · by_cases h : r.weight = 400 <;> simp [h, isPlacing, isSizing]
  · by_cases h : r.font.isItalic = true <;> simp [h, isPlacing, isSizing]
  · cases r.lineHeight.pixels? r.size <;> simp [isPlacing, isSizing]
  · split <;> simp [isPlacing, isSizing]
  · cases r.decoration <;> simp [decoration, isPlacing, isSizing]
  · cases r.case <;> simp [textCase, isPlacing, isSizing]
  · cases Paint.solidFill? r.fills <;> simp [isPlacing, isSizing]

theorem filter_written (c : Context) (site : Site Float) : (written c site).filter isPlacing =
    anchor site.position ++ sizing site .horizontal ++ sizing site .vertical := by
  have hdeclarations : (declarations site).filter isPlacing =
      anchor site.position ++ sizing site .horizontal ++ sizing site .vertical := by
    have hlayout : ((site.element.kind.layout?.map layout).getD []).filter isPlacing = [] := by
      cases site.element.kind.layout? with
      | none => rfl
      | some l => exact filter_layout l
    unfold declarations
    simp only [filter_append, filter_position, filter_sizing, hlayout, filter_appearance,
      append_nil]
  unfold written
  cases site.element.kind with
  | text content =>
    simp only [filter_append, hdeclarations, filter_textDeclarations, nil_append]
    split
    · rw [filter_runDeclarations, append_nil]
    · rw [filter_nil, append_nil]
  | _ => exact hdeclarations

theorem filter_written_isSizing (c : Context) (site : Site Float) :
    (written c site).filter isSizing = sizing site .horizontal ++ sizing site .vertical := by
  have hanchor : (anchor site.position).filter isSizing = [] := by cases site.position <;> rfl
  have hsizing : ∀ axis, (sizing site axis).filter isSizing = sizing site axis := by
    intro axis
    exact filter_eq_self.mpr fun d hd => isSizing_of_mem_sizing site hd
  rw [filter_filter_of_imp (q := isPlacing) (by simp +contextual [isPlacing]), filter_written,
    filter_append, filter_append, hanchor, hsizing, hsizing, nil_append]

theorem px_ne (x : Float) : px x ≠ "fit-content" := by
  intro h
  have hlast := congrArg (fun s => s.toList.getLast?) h
  simp [px] at hlast

theorem words_distinct : words.Distinct where
  fixed_axis {a b _ _} h := by cases a <;> cases b <;> simp [words, Axis.extentName] at h ⊢
  hug_axis {a b} h := by cases a <;> cases b <;> simp [words, Axis.extentName] at h ⊢
  fixed_ne_hug a l b := by simp [words, px_ne]
  fixed_ne_share a l := by cases a <;> simp [words, Axis.extentName]
  fixed_ne_stretch a l := by cases a <;> simp [words, Axis.extentName]
  hug_ne_share a := by cases a <;> simp [words, Axis.extentName]
  hug_ne_stretch a := by cases a <;> simp [words, Axis.extentName]
  share_ne_stretch := by simp [words]

theorem says_iff (c : Context) (site : Site Float) (axis : Axis) (x : Extent) :
    words.Says (written c site) axis (site.isMainAxis axis) x ↔ site.extent axis = x :=
  words_distinct.says_iff (fun a _ => by cases a <;> rfl) (fun a => by cases a <;> rfl) rfl rfl
    (filter_written_isSizing c site) axis x

end Html

/-! ## HTML with utility classes -/

namespace Tailwind

def written (c : Context) (site : Site Float) : List String := styling.pieces c site

def words : SizeWords String where
  fixed axis l := bracketPx (extentName axis) l
  hug axis := extentName axis ++ "-fit"
  share := "flex-1"
  stretch := "self-stretch"

def isSizing (k : String) : Bool :=
  match k.toList with
  | 'w' :: '-' :: _ | 'h' :: '-' :: _ => true
  | cs => cs == "flex-1".toList || cs == "self-stretch".toList

def isPlacing (k : String) : Bool :=
  isSizing k || k.toList == "absolute".toList || k.toList == "relative".toList

def anchor : Position → List String
  | .absolute => ["absolute"]
  | .relative => ["relative"]
  | .static => []

theorem isSizing_fixed (axis : Axis) (l : Float) : isSizing (words.fixed axis l) = true := by
  cases axis <;> simp [words, bracketPx, bracket, extentName, isSizing]

section
variable (site : Site Float)

theorem filter_turn : (turn site).filter isPlacing = [] := by
  unfold turn
  by_cases h : site.element.props.geometry.isRotated = true <;>
    simp [h, isPlacing, isSizing, bracket]

theorem filter_position : (position site).filter isPlacing = anchor site.position := by
  unfold position Site.position
  rw [filter_append, filter_turn, append_nil]
  by_cases habs : site.isAbsolute = true
  · simp [habs, anchor, isPlacing, isSizing, bracketPx, bracket]
  · by_cases hhost : site.hostsAbsolute = true <;> simp [habs, hhost, anchor, isPlacing, isSizing]

theorem isSizing_of_mem_sizing {axis : Axis} {k : String} (hk : k ∈ sizing site axis) :
    isSizing k = true := by
  unfold sizing at hk
  cases hs : site.sizing axis with
  | fixed l =>
    simp only [hs, mem_singleton] at hk
    rw [hk]
    exact isSizing_fixed axis l
  | hug =>
    simp only [hs, mem_singleton] at hk
    cases axis <;> simp [hk, isSizing, extentName]
  | fill =>
    by_cases hmain : site.isMainAxis axis = true <;> simp [hs, hmain] at hk <;> simp [hk, isSizing]

theorem filter_sizing (axis : Axis) : (sizing site axis).filter isPlacing = sizing site axis := by
  apply filter_eq_self.mpr
  intro k hk
  simp [isPlacing, isSizing_of_mem_sizing site hk]

end

theorem filter_sides {l : List (String × Float)}
    (h : ∀ p ∈ l, isPlacing (bracketPx p.1 p.2) = false) : (sides l).filter isPlacing = [] := by
  apply filter_eq_nil_iff.mpr
  intro k hk
  obtain ⟨p, hp, rfl⟩ := mem_map.mp hk
  simp [h p (mem_of_mem_filter hp)]

theorem filter_flow (l : ContainerLayout Float) : (flow l).filter isPlacing = [] := by
  unfold flow
  cases l.flow.mainAxis with
  | none => rfl
  | some main =>
    have hdirection : isPlacing (direction main) = false := by cases main <;> rfl
    have hjustify : isPlacing (justify l.distribution) = false := by cases l.distribution <;> rfl
    have hitems : isPlacing (items l.alignment) = false := by cases l.alignment <;> rfl
    have hflex : isPlacing "flex" = false := rfl
    by_cases h : 0 < l.itemSpacing
    · have hgap : isPlacing (bracketPx "gap" l.itemSpacing) = false := by
        simp [isPlacing, isSizing, bracketPx, bracket]
      simp [h, hflex, hdirection, hgap, hjustify, hitems]
    · simp [h, hflex, hdirection, hjustify, hitems]

theorem filter_padding (l : ContainerLayout Float) : (padding l.padding).filter isPlacing = [] := by
  unfold padding
  by_cases hzero : l.padding.isZero = true
  · simp [hzero]
  · by_cases huniform : l.padding.isUniform = true
    · simp [hzero, huniform, isPlacing, isSizing, bracketPx, bracket]
    · simp only [hzero, huniform]
      exact filter_sides (by simp [isPlacing, isSizing, bracketPx, bracket])

theorem filter_layout (l : ContainerLayout Float) : (layout l).filter isPlacing = [] := by
  unfold layout
  rw [filter_append, filter_append, filter_flow, filter_padding]
  by_cases h : l.clips = true <;> simp [h, isPlacing, isSizing]

theorem filter_gradient (g : Gradient) : (gradient g).filter isPlacing = [] := by
  unfold gradient
  cases g.colors.head? with
  | none => rfl
  | some first =>
    cases g.colors.getLast? with
    | none => rfl
    | some last =>
      by_cases h : 2 < g.colors.length <;> cases g.colors[g.colors.length / 2]? <;>
        simp [h, isPlacing, isSizing, bracket]

theorem filter_backgrounds (e : Element Float) : (backgrounds e).filter isPlacing = [] := by
  unfold backgrounds
  by_cases h : e.isText = true
  · simp [h]
  · cases e.props.fills.findSome? Paint.linear? with
    | some g => simp [h, filter_gradient]
    | none =>
      cases e.props.fills.getLast? with
      | none => simp [h]
      | some p => cases p <;> simp [h, background, wideGradient, bracket, isPlacing, isSizing]

theorem filter_border (e : Element Float) : (border e).filter isPlacing = [] := by
  unfold border
  cases e.stroke? with
  | none => rfl
  | some s =>
    simp only
    split <;> simp [isPlacing, isSizing, bracketPx, bracket]

theorem filter_radius (e : Element Float) : (radius e).filter isPlacing = [] := by
  have hcorners : ∀ tl tr br bl, (sides [("rounded-tl", tl), ("rounded-tr", tr),
      ("rounded-br", br), ("rounded-bl", bl)]).filter isPlacing = [] := by
    intro tl tr br bl
    exact filter_sides (by simp [isPlacing, isSizing, bracketPx, bracket])
  unfold radius
  split
  · simp [isPlacing, isSizing]
  · by_cases h : e.props.cornerRadii.isZero = true
    · simp [h]
    · simp only [h]
      cases e.props.cornerRadii with
      | uniform r => simp [isPlacing, isSizing, bracketPx, bracket]
      | perCorner tl tr br bl => exact hcorners tl tr br bl

theorem filter_blending (e : Element Float) : (blending e).filter isPlacing = [] := by
  unfold blending
  by_cases h : e.props.opacity < 1 <;> cases e.props.blendMode.keyword? <;>
    simp [h, isPlacing, isSizing, bracket]

theorem filter_blurs (e : Element Float) : (blurs e).filter isPlacing = [] := by
  apply filter_eq_nil_iff.mpr
  intro k hk
  obtain ⟨effect, _, heffect⟩ := mem_filterMap.mp hk
  cases effect <;> simp at heffect <;> simp [← heffect, isPlacing, isSizing, bracketPx, bracket]

theorem filter_effects (e : Element Float) : (effects e).filter isPlacing = [] := by
  unfold effects
  rw [filter_append, filter_blurs]
  by_cases h : (Html.shadows e).isEmpty = true <;> simp [h, isPlacing, isSizing, bracket]

theorem filter_appearance (e : Element Float) : (appearance e).filter isPlacing = [] := by
  unfold appearance
  rw [filter_append, filter_append, filter_append, filter_append, filter_backgrounds,
    filter_border, filter_radius, filter_blending, filter_effects]
  rfl

theorem filter_runClasses (r : TextRun) : (runClasses r).filter isPlacing = [] := by
  unfold runClasses
  simp only [filter_append, append_eq_nil_iff]
  refine ⟨⟨⟨⟨⟨⟨⟨?_, ?_⟩, ?_⟩, ?_⟩, ?_⟩, ?_⟩, ?_⟩, ?_⟩
  · simp [isPlacing, isSizing, bracketPx, bracket]
  · have hweight : isPlacing (weight r.weight) = false := by
      unfold weight
      split <;> rfl
    by_cases h : r.weight = 400 <;> simp [h, hweight]
  · by_cases h : r.font.isItalic = true <;> simp [h, isPlacing, isSizing]
  · cases r.lineHeight.pixels? r.size <;> simp [isPlacing, isSizing, bracketPx, bracket]
  · split <;> simp [isPlacing, isSizing, bracketPx, bracket]
  · cases r.decoration <;> simp [decoration, isPlacing, isSizing]
  · cases r.case <;> simp [textCase, isPlacing, isSizing]
  · cases Paint.solidFill? r.fills <;> simp [isPlacing, isSizing, bracket]

theorem filter_written (c : Context) (site : Site Float) : (written c site).filter isPlacing =
    anchor site.position ++ sizing site .horizontal ++ sizing site .vertical := by
  have hclasses : (classes site).filter isPlacing =
      anchor site.position ++ sizing site .horizontal ++ sizing site .vertical := by
    have hlayout : ((site.element.kind.layout?.map layout).getD []).filter isPlacing = [] := by
      cases site.element.kind.layout? with
      | none => rfl
      | some l => exact filter_layout l
    unfold classes
    simp only [filter_append, filter_position, filter_sizing, hlayout, filter_appearance,
      append_nil]
  unfold written
  cases hk : site.element.kind with
  | text content =>
    have halign : (textAlign content.alignHorizontal).filter isPlacing = [] := by
      cases content.alignHorizontal <;> simp [textAlign, isPlacing, isSizing]
    have hrun : (styling.single (site.element.textRuns c)).filter isPlacing = [] := by
      unfold Markup.Styling.single
      split
      · exact filter_runClasses _
      · rfl
    rw [Markup.Styling.pieces_of_text styling c hk, filter_append, filter_append, hrun]
    simp only [styling, hclasses, halign, append_nil]
  | _ =>
    rw [Markup.Styling.pieces_of_content?_eq_none styling c (by rw [hk]; rfl)]
    exact hclasses

theorem filter_written_isSizing (c : Context) (site : Site Float) :
    (written c site).filter isSizing = sizing site .horizontal ++ sizing site .vertical := by
  have hanchor : (anchor site.position).filter isSizing = [] := by cases site.position <;> rfl
  have hsizing : ∀ axis, (sizing site axis).filter isSizing = sizing site axis := by
    intro axis
    exact filter_eq_self.mpr fun k hk => isSizing_of_mem_sizing site hk
  rw [filter_filter_of_imp (q := isPlacing) (by simp +contextual [isPlacing]), filter_written,
    filter_append, filter_append, hanchor, hsizing, hsizing, nil_append]

theorem words_distinct : words.Distinct where
  fixed_axis {a b _ _} h := by
    have hlist := congrArg String.toList h
    cases a <;> cases b <;> simp [words, bracketPx, bracket, extentName] at hlist ⊢
  hug_axis {a b} h := by cases a <;> cases b <;> simp [words, extentName] at h ⊢
  fixed_ne_hug a l b h := by
    have hlist := congrArg String.toList h
    cases a <;> cases b <;> simp [words, bracketPx, bracket, extentName] at hlist
  fixed_ne_share a l h := by
    have hlist := congrArg String.toList h
    cases a <;> simp [words, bracketPx, bracket, extentName] at hlist
  fixed_ne_stretch a l h := by
    have hlist := congrArg String.toList h
    cases a <;> simp [words, bracketPx, bracket, extentName] at hlist
  hug_ne_share a := by cases a <;> simp [words, extentName]
  hug_ne_stretch a := by cases a <;> simp [words, extentName]
  share_ne_stretch := by simp [words]

theorem says_iff (c : Context) (site : Site Float) (axis : Axis) (x : Extent) :
    words.Says (written c site) axis (site.isMainAxis axis) x ↔ site.extent axis = x :=
  words_distinct.says_iff isSizing_fixed (fun a => by cases a <;> rfl) rfl rfl
    (filter_written_isSizing c site) axis x

end Tailwind

end Artboard
