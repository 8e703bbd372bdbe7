import Artboard.Proofs.Pieces
import Mathlib.Data.List.Basic
import Mathlib.Tactic.SplitIfs

/-!
# Texts between quotes

A text can stand between double quotes if it has none of its own. That holds of every figure, and so
of all declarations of elements and runs, the families of fonts apart: they are written as the host
has them.
-/

open List

namespace Artboard

def Quotable (s : String) : Prop := '"' ∉ s.toList

instance (s : String) : Decidable (Quotable s) := inferInstanceAs (Decidable ('"' ∉ s.toList))

@[simp] theorem quotable_append {s t : String} : Quotable (s ++ t) ↔ Quotable s ∧ Quotable t := by
  simp [Quotable]

theorem quotable_intercalate {s : String} {l : List String} (hs : Quotable s)
    (hl : ∀ t ∈ l, Quotable t) : Quotable (s.intercalate l) := by
  induction l with
  | nil => simp +decide
  | cons t l ih =>
    rw [forall_mem_cons] at hl
    cases l with
    | nil => simpa using hl.1
    | cons u l => simp [String.intercalate_cons_cons, hs, hl.1, ih hl.2]

@[simp] theorem quotable_markup (s : String) : Quotable (Escape.markup s) := by
  unfold Quotable Escape.markup
  rw [String.toList_ofList]
  intro h
  obtain ⟨c, _, hc⟩ := mem_flatMap.mp h
  unfold Escape.markupChar at hc
  split at hc <;> simp at hc
  rename_i hquote _ _
  exact hquote hc.symm

/-! ## Figures -/

def isNumeric (c : Char) : Bool := c.isAlphanum || c == '-' || c == '.' || c == '*'

def IsNumeric (s : String) : Prop := ∀ c ∈ s.toList, isNumeric c = true

theorem IsNumeric.quotable {s : String} (h : IsNumeric s) : Quotable s := by
  intro hquote
  cases h _ hquote

theorem isNumeric_of_isDigit {c : Char} (h : c.isDigit = true) : isNumeric c = true := by
  simp [isNumeric, Char.isAlphanum, h]

theorem isNumeric_nat (n : Nat) : IsNumeric n.repr := by
  unfold IsNumeric
  rw [Nat.repr_eq_ofList_toDigits, String.toList_ofList]
  intro c hc
  exact isNumeric_of_isDigit (Nat.isDigit_of_mem_toDigits (by decide) (by decide) hc)

theorem isNumeric_int (n : Int) : IsNumeric (toString n) := by
  cases n with
  | ofNat m => exact isNumeric_nat m
  | negSucc m =>
    have hneg : (toString (Int.negSucc m)).toList = '-' :: (m + 1).repr.toList := by
      change ("-" ++ (m + 1).repr).toList = _
      simp
    unfold IsNumeric
    rw [hneg, forall_mem_cons]
    exact ⟨rfl, isNumeric_nat (m + 1)⟩

@[simp] theorem quotable_nat (n : Nat) : Quotable n.repr := (isNumeric_nat n).quotable

@[simp] theorem quotable_int (n : Int) : Quotable (toString n) := (isNumeric_int n).quotable

namespace Decimal

theorem isNumeric_digits (n : Nat) : ∀ c ∈ digits n, isNumeric c = true := by
  intro c hc
  exact isNumeric_of_isDigit (Nat.isDigit_of_mem_toDigits (by decide) (by decide) hc)

theorem isNumeric_positional (n : Nat) (p : Int) : ∀ c ∈ positional n p, isNumeric c = true := by
  unfold positional
  split
  · exact isNumeric_digits _
  · simp only
    split
    · exact isNumeric_digits _
    · rw [forall_mem_append, forall_mem_cons]
      refine ⟨isNumeric_digits _, rfl, ?_⟩
      intro c hc
      have htail := (dropWhile_sublist _).subset (mem_reverse.mp hc)
      simp only [mem_reverse, mem_append, mem_replicate] at htail
      rcases htail with ⟨_, rfl⟩ | h
      · rfl
      · exact isNumeric_digits _ c h

theorem isNumeric_text {φ : Type} [BinaryFloat φ] (x : φ) : IsNumeric (text x) := by
  have hsigned : ∀ (s) (cs : List Char), (∀ c ∈ cs, isNumeric c = true) →
      ∀ c ∈ signed s cs, isNumeric c = true := by
    intro s cs hcs
    unfold signed
    split
    · rw [forall_mem_cons]
      exact ⟨rfl, hcs⟩
    · exact hcs
  unfold IsNumeric text
  split
  · simp only [String.toList_ofList]
    exact hsigned _ _ (isNumeric_positional _ _)
  · rw [String.toList_ofList]
    exact hsigned _ _ (all_eq_true.mp rfl)
  · rw [String.toList_ofList]
    exact hsigned _ _ (all_eq_true.mp rfl)
  · exact all_eq_true.mp rfl

end Decimal

namespace Figure

theorem isNumeric_withPlaces (places : Nat) (x : Float) : IsNumeric (withPlaces places x) := by
  unfold withPlaces
  simp only
  split
  · exact isNumeric_int _
  · exact Decimal.isNumeric_text _

@[simp] theorem quotable_length (x : Float) : Quotable (length x) :=
  (isNumeric_withPlaces 2 x).quotable

theorem digitChar_mem (n : Nat) : Nat.digitChar n ∈ "0123456789abcdef*".toList := by
  by_cases h : n < 16
  · revert n
    decide
  · have hstar : Nat.digitChar n = '*' := by
      unfold Nat.digitChar
      repeat rw [if_neg (by omega)]
    rw [hstar]
    decide

theorem isNumeric_hexDigits (n : Nat) : ∀ c ∈ Color.hexDigits n, isNumeric c = true := by
  have hupper : "0123456789abcdef*".toList.all (fun d => isNumeric d.toUpper) = true := by decide
  intro c hc
  obtain ⟨d, hd, rfl⟩ := mem_map.mp hc
  rcases mem_pair.mp hd with rfl | rfl
  · exact all_eq_true.mp hupper _ (digitChar_mem _)
  · exact all_eq_true.mp hupper _ (digitChar_mem _)

theorem quotable_hex (c : Color) : Quotable c.hex := by
  unfold Quotable Color.hex
  rw [String.toList_ofList]
  intro h
  rcases mem_cons.mp h with h | h
  · cases h
  · obtain ⟨x, _, hx⟩ := mem_flatMap.mp h
    cases isNumeric_hexDigits _ _ hx

@[simp] theorem quotable_cssColor (c : Color) : Quotable (cssColor c) := by
  unfold cssColor
  split
  · exact quotable_hex c
  · simp +decide

end Figure

/-! ## HTML with inline styles -/

namespace Html

@[simp] theorem quotable_px (x : Float) : Quotable (px x) := by simp +decide [px]

@[simp] theorem quotable_stops (g : Gradient) : Quotable (stops g) := by
  unfold stops
  apply quotable_intercalate
  · decide
  · intro t ht
    obtain ⟨p, _, rfl⟩ := mem_map.mp ht
    simp +decide

section
variable (site : Site Float) (e : Element Float)

theorem quotable_position : ∀ d ∈ position site, Quotable d.text := by
  unfold position turn
  simp only
  split_ifs <;> simp +decide [Declaration.text]

theorem quotable_sizing (axis : Axis) : ∀ d ∈ sizing site axis, Quotable d.text := by
  unfold sizing
  split
  · cases axis <;> simp +decide [Declaration.text, Axis.extentName]
  · cases axis <;> decide
  · split <;> decide

theorem quotable_layout (l : ContainerLayout Float) : ∀ d ∈ layout l, Quotable d.text := by
  have hflow : ∀ d ∈ flow l, Quotable d.text := by
    unfold flow
    cases l.flow.mainAxis with
    | none => simp
    | some main =>
      have hdirection : Quotable (direction main) := by cases main <;> decide
      have hjustify : Quotable (justify l.distribution) := by cases l.distribution <;> decide
      have halign : Quotable (align l.alignment) := by cases l.alignment <;> decide
      by_cases h : 0 < l.itemSpacing <;>
        simp +decide [h, Declaration.text, hdirection, hjustify, halign]
  have hpadding : ∀ d ∈ padding l.padding, Quotable d.text := by
    unfold padding
    split <;> simp +decide [Declaration.text]
  have hclips : ∀ d ∈ (if l.clips then [⟨"overflow", "hidden"⟩] else [] : List Declaration),
      Quotable d.text := by
    split <;> decide
  unfold layout
  simp only [forall_mem_append]
  exact ⟨⟨hflow, hpadding⟩, hclips⟩

theorem quotable_background (p : Paint) : Quotable (background p).text := by
  cases p <;> simp +decide [background, Declaration.text]

theorem quotable_border : ∀ d ∈ border e, Quotable d.text := by
  unfold border
  split
  · simp
  · simp only
    split <;> simp +decide [Declaration.text]

theorem quotable_radius : ∀ d ∈ radius e, Quotable d.text := by
  unfold radius
  split
  · decide
  · split
    · simp
    · split <;> simp +decide [Declaration.text]

theorem quotable_keyword {m : BlendMode} {k : String} (h : m.keyword? = some k) : Quotable k := by
  cases m <;> cases h <;> decide

theorem quotable_blending : ∀ d ∈ blending e, Quotable d.text := by
  unfold blending
  rw [forall_mem_append]
  constructor
  · split <;> simp +decide [Declaration.text]
  · cases hk : e.props.blendMode.keyword? with
    | none => simp
    | some k => simp +decide [Declaration.text, quotable_keyword hk]

theorem quotable_shadow (inner : Bool) (s : Shadow) : Quotable (shadow inner s) := by
  cases inner <;> simp +decide [shadow]

theorem quotable_shadows : ∀ t ∈ shadows e, Quotable t := by
  intro t ht
  obtain ⟨x, _, hx⟩ := mem_filterMap.mp ht
  cases x with
  | dropShadow s =>
    cases hx
    exact quotable_shadow false s
  | innerShadow s =>
    cases hx
    exact quotable_shadow true s
  | _ => cases hx

theorem quotable_effects : ∀ d ∈ effects e, Quotable d.text := by
  unfold effects
  rw [forall_mem_append]
  constructor
  · intro d hd
    obtain ⟨x, _, hx⟩ := mem_filterMap.mp hd
    cases x <;> simp at hx <;> simp +decide [← hx, Declaration.text]
  · have hall := quotable_intercalate (s := ", ") (by decide) (quotable_shadows e)
    split
    · simp
    · cases e.isText <;> simp +decide [Declaration.text, hall]

theorem quotable_declarations : ∀ d ∈ declarations site, Quotable d.text := by
  have hlayout : ∀ d ∈ (site.element.kind.layout?.map layout).getD [], Quotable d.text := by
    cases site.element.kind.layout? with
    | none => simp
    | some l => exact quotable_layout l
  have hbackgrounds : ∀ d ∈ backgrounds site.element, Quotable d.text := by
    unfold backgrounds
    split
    · simp
    · cases site.element.props.fills.getLast? <;> simp [quotable_background]
  unfold declarations appearance
  simp only [forall_mem_append]
  exact ⟨⟨⟨⟨quotable_position site, quotable_sizing site _⟩, quotable_sizing site _⟩, hlayout⟩,
    ⟨⟨⟨hbackgrounds, quotable_border _⟩, quotable_radius _⟩, quotable_blending _⟩,
    quotable_effects _⟩

end

theorem quotable_textDeclarations (t : TextContent) :
    ∀ d ∈ textDeclarations t, Quotable d.text := by
  unfold textDeclarations
  cases t.alignHorizontal <;> decide

/-- Only the family of the font can bring a quote of its own. -/
theorem quotable_runDeclarations {r : TextRun} (h : Quotable r.font.family) :
    ∀ d ∈ runDeclarations r, Quotable d.text := by
  unfold runDeclarations
  simp only [forall_mem_append]
  refine ⟨⟨⟨⟨⟨⟨⟨?_, ?_⟩, ?_⟩, ?_⟩, ?_⟩, ?_⟩, ?_⟩, ?_⟩
  · simp +decide [Declaration.text, h]
  · split <;> simp +decide [Declaration.text]
  · split <;> decide
  · cases r.lineHeight.pixels? r.size <;> simp +decide [Declaration.text]
  · split <;> simp +decide [Declaration.text]
  · cases r.decoration <;> decide
  · cases r.case <;> decide
  · cases Paint.solidFill? r.fills <;> simp +decide [Declaration.text]

end Html

end Artboard
