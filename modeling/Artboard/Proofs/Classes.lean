import Artboard.Proofs.Quotes
import Mathlib.Tactic.Tauto

/-!
# Characters of classes

Classes are written with letters, figures and a few signs, none of which is a double quote or white
space: the blanks of a value are replaced before it is put in brackets. Only the family of a font is
written as the host has it, and of its white space only plain blanks are replaced.
-/

open List

namespace Artboard

/-! ## White space -/

/-- White space in a text is nothing but plain blanks. -/
def HasPlainBlanks (s : String) : Prop := ∀ c ∈ s.toList, isBlankChar c = true → c = ' '

instance (s : String) : Decidable (HasPlainBlanks s) := List.decidableBAll _ s.toList

def IsSolid (s : String) : Prop := ∀ c ∈ s.toList, isBlankChar c = false

instance (s : String) : Decidable (IsSolid s) := List.decidableBAll _ s.toList

@[simp] theorem isSolid_append {s t : String} : IsSolid (s ++ t) ↔ IsSolid s ∧ IsSolid t := by
  simp only [IsSolid, String.toList_append, forall_mem_append]

structure IsWord (s : String) : Prop where
  ne_empty : s ≠ ""
  isSolid : IsSolid s

instance (s : String) : Decidable (IsWord s) :=
  decidable_of_iff (s ≠ "" ∧ IsSolid s) ⟨fun h => ⟨h.1, h.2⟩, fun h => ⟨h.1, h.2⟩⟩

theorem IsWord.append {s t : String} (hs : IsWord s) (ht : IsSolid t) : IsWord (s ++ t) where
  ne_empty h := hs.ne_empty (String.append_eq_empty_iff.mp h).1
  isSolid := isSolid_append.mpr ⟨hs.isSolid, ht⟩

def blankChars : List Char :=
  (List.range' 9 5 ++ [0x20, 0x85, 0xA0, 0x1680] ++ List.range' 0x2000 11 ++
    [0x2028, 0x2029, 0x202F, 0x205F, 0x3000]).map Char.ofNat

theorem mem_blankChars {c : Char} (h : isBlankChar c = true) : c ∈ blankChars := by
  have hc : c = Char.ofNat c.toNat := (Char.ofNat_toNat c).symm
  rw [hc]
  apply mem_map_of_mem
  simp only [isBlankChar, Bool.or_eq_true, Bool.and_eq_true, decide_eq_true_eq, beq_iff_eq] at h
  simp only [mem_append, mem_range'_1, mem_cons, not_mem_nil, or_false]
  omega

theorem isBlankChar_eq_false {p : Char → Bool} (hp : blankChars.any p = false) {c : Char}
    (h : p c = true) : isBlankChar c = false := by
  rw [Bool.eq_false_iff]
  exact fun hblank => any_eq_false.mp hp c (mem_blankChars hblank) h

theorem IsNumeric.isSolid {s : String} (h : IsNumeric s) : IsSolid s := fun c hc =>
  isBlankChar_eq_false (by decide) (h c hc)

namespace Tailwind

/-! ## Characters -/

def isClassChar (c : Char) : Bool :=
  isNumeric c || ['[', ']', '(', ')', '#', '%', ',', '_', ':', '\''].contains c

def IsClassText (s : String) : Prop := ∀ c ∈ s.toList, isClassChar c = true

instance (s : String) : Decidable (IsClassText s) := List.decidableBAll _ s.toList

def IsValue (s : String) : Prop := ∀ c ∈ s.toList, isClassChar c = true ∨ c = ' '

instance (s : String) : Decidable (IsValue s) := List.decidableBAll _ s.toList

structure IsClass (s : String) : Prop where
  ne_empty : s ≠ ""
  isClassText : IsClassText s

instance (s : String) : Decidable (IsClass s) :=
  decidable_of_iff (s ≠ "" ∧ IsClassText s) ⟨fun h => ⟨h.1, h.2⟩, fun h => ⟨h.1, h.2⟩⟩

theorem IsClassText.isSolid {s : String} (h : IsClassText s) : IsSolid s := fun c hc =>
  isBlankChar_eq_false (by decide) (h c hc)

theorem IsClassText.quotable {s : String} (h : IsClassText s) : Quotable s := by
  intro hquote
  cases h _ hquote

@[simp] theorem isClassText_append {s t : String} :
    IsClassText (s ++ t) ↔ IsClassText s ∧ IsClassText t := by
  simp only [IsClassText, String.toList_append, forall_mem_append]

@[simp] theorem isValue_append {s t : String} : IsValue (s ++ t) ↔ IsValue s ∧ IsValue t := by
  simp only [IsValue, String.toList_append, forall_mem_append]

theorem isValue_intercalate {s : String} {l : List String} (hs : IsValue s)
    (hl : ∀ t ∈ l, IsValue t) : IsValue (s.intercalate l) := by
  induction l with
  | nil => simp +decide
  | cons t l ih =>
    rw [forall_mem_cons] at hl
    cases l with
    | nil => simpa using hl.1
    | cons u l => simp [String.intercalate_cons_cons, hs, hl.1, ih hl.2]

theorem isClassText_of_isNumeric {s : String} (h : IsNumeric s) : IsClassText s := fun c hc => by
  simp [isClassChar, h c hc]

theorem IsClassText.isValue {s : String} (h : IsClassText s) : IsValue s := fun c hc =>
  .inl (h c hc)

/-! ## Values -/

@[simp] theorem isClassText_length (x : Float) : IsClassText (Figure.length x) :=
  isClassText_of_isNumeric (Figure.isNumeric_withPlaces 2 x)

@[simp] theorem isClassText_px (x : Float) : IsClassText (Html.px x) := by simp +decide [Html.px]

@[simp] theorem isValue_nat (n : Nat) : IsValue n.repr :=
  (isClassText_of_isNumeric (isNumeric_nat n)).isValue

@[simp] theorem isValue_length (x : Float) : IsValue (Figure.length x) :=
  (isClassText_length x).isValue

@[simp] theorem isValue_px (x : Float) : IsValue (Html.px x) := (isClassText_px x).isValue

theorem isClassText_hex (c : Color) : IsClassText c.hex := by
  unfold IsClassText Color.hex
  rw [String.toList_ofList, forall_mem_cons]
  refine ⟨rfl, fun d hd => ?_⟩
  obtain ⟨x, _, hx⟩ := mem_flatMap.mp hd
  simp [isClassChar, Figure.isNumeric_hexDigits _ d hx]

@[simp] theorem isValue_cssColor (c : Color) : IsValue (Figure.cssColor c) := by
  unfold Figure.cssColor
  split
  · exact (isClassText_hex c).isValue
  · simp +decide

theorem isValue_stops (g : Gradient) : IsValue (Html.stops g) := by
  unfold Html.stops
  apply isValue_intercalate
  · decide
  · intro t ht
    obtain ⟨p, _, rfl⟩ := mem_map.mp ht
    simp +decide

theorem isValue_shadows (e : Element Float) : ∀ t ∈ Html.shadows e, IsValue t := by
  have hshadow : ∀ inner s, IsValue (Html.shadow inner s) := by
    intro inner s
    cases inner <;> simp +decide [Html.shadow]
  intro t ht
  obtain ⟨x, _, hx⟩ := mem_filterMap.mp ht
  cases x with
  | dropShadow s =>
    cases hx
    exact hshadow false s
  | innerShadow s =>
    cases hx
    exact hshadow true s
  | _ => cases hx

theorem mem_of_mem_tightenCommas {d : Char} {cs : List Char} (h : d ∈ tightenCommas cs) :
    d ∈ cs := by
  fun_induction tightenCommas cs with
  | case1 rest ih => simp only [mem_cons] at h ⊢; tauto
  | case2 c rest _ ih => simp only [mem_cons] at h ⊢; tauto
  | case3 => exact h

theorem eq_or_mem_of_mem_arbitrary {c : Char} {s : String} (h : c ∈ (arbitrary s).toList) :
    c = '_' ∨ c ∈ s.toList ∧ c ≠ ' ' := by
  unfold arbitrary at h
  rw [String.toList_ofList] at h
  obtain ⟨d, hd, rfl⟩ := mem_map.mp h
  by_cases hblank : d = ' '
  · exact .inl (if_pos hblank)
  · rw [if_neg hblank]
    exact .inr ⟨mem_of_mem_tightenCommas hd, hblank⟩

theorem IsValue.isClassText_arbitrary {s : String} (h : IsValue s) :
    IsClassText (arbitrary s) := by
  intro c hc
  rcases eq_or_mem_of_mem_arbitrary hc with rfl | ⟨hmem, hne⟩
  · rfl
  · exact (h c hmem).resolve_right hne

@[simp] theorem quotable_arbitrary {s : String} (h : Quotable s) : Quotable (arbitrary s) := by
  intro hquote
  rcases eq_or_mem_of_mem_arbitrary hquote with heq | ⟨hmem, _⟩
  · cases heq
  · exact h hmem

theorem mem_tightenCommas_of_ne {d : Char} (hd : d ≠ ' ') {cs : List Char} (h : d ∈ cs) :
    d ∈ tightenCommas cs := by
  fun_induction tightenCommas cs with
  | case1 rest ih => simp only [mem_cons] at h ⊢; tauto
  | case2 c rest _ ih => simp only [mem_cons] at h ⊢; tauto
  | case3 => exact h

/-- All white space but the plain blanks of a value is left in it. -/
theorem isSolid_arbitrary_iff {s : String} : IsSolid (arbitrary s) ↔ HasPlainBlanks s := by
  constructor
  · intro h c hc hblank
    by_contra hne
    have hmem : c ∈ (arbitrary s).toList := by
      unfold arbitrary
      rw [String.toList_ofList]
      exact mem_map.mpr ⟨c, mem_tightenCommas_of_ne hne hc, if_neg hne⟩
    rw [h c hmem] at hblank
    cases hblank
  · intro h c hc
    rcases eq_or_mem_of_mem_arbitrary hc with rfl | ⟨hmem, hne⟩
    · rfl
    · rw [Bool.eq_false_iff]
      exact fun hblank => hne (h c hmem hblank)

/-! ## Classes of elements -/

@[simp] theorem isClass_bracket {name value : String} :
    IsClass (bracket name value) ↔ IsClassText name ∧ IsClassText value := by
  have hne : bracket name value ≠ "" := by
    intro h
    have hempty := congrArg String.toList h
    simp [bracket] at hempty
  constructor
  · intro h
    simpa +decide [bracket] using h.isClassText
  · intro h
    exact ⟨hne, by simpa +decide [bracket] using h⟩

@[simp] theorem isClass_bracketPx {name : String} {x : Float} :
    IsClass (bracketPx name x) ↔ IsClassText name := by
  simp [bracketPx]

@[simp] theorem isClassText_color (c : Color) : IsClassText (color c) :=
  (isValue_cssColor c).isClassText_arbitrary

theorem isClass_sides {l : List (String × Float)} (h : ∀ p ∈ l, IsClassText p.1) :
    ∀ k ∈ sides l, IsClass k := by
  intro k hk
  obtain ⟨p, hp, rfl⟩ := mem_map.mp hk
  simp [h p (mem_of_mem_filter hp)]

section
variable (site : Site Float) (e : Element Float)

theorem isClass_position : ∀ k ∈ position site, IsClass k := by
  unfold position turn
  simp only
  split_ifs <;> simp +decide

theorem isClass_sizing (axis : Axis) : ∀ k ∈ sizing site axis, IsClass k := by
  unfold sizing
  split
  · cases axis <;> simp +decide [extentName]
  · cases axis <;> decide
  · split <;> decide

theorem isClass_layout (l : ContainerLayout Float) : ∀ k ∈ layout l, IsClass k := by
  have hflow : ∀ k ∈ flow l, IsClass k := by
    unfold flow
    cases l.flow.mainAxis with
    | none => simp
    | some main =>
      have hdirection : IsClass (direction main) := by cases main <;> decide
      have hjustify : IsClass (justify l.distribution) := by cases l.distribution <;> decide
      have hitems : IsClass (items l.alignment) := by cases l.alignment <;> decide
      by_cases h : 0 < l.itemSpacing <;> simp +decide [h, hdirection, hjustify, hitems]
  have hpadding : ∀ k ∈ padding l.padding, IsClass k := by
    unfold padding
    split
    · simp
    · split
      · simp +decide
      · exact isClass_sides (by simp +decide)
  have hclips : ∀ k ∈ (if l.clips then ["overflow-hidden"] else [] : List String), IsClass k := by
    split <;> decide
  unfold layout
  simp only [forall_mem_append]
  exact ⟨⟨hflow, hpadding⟩, hclips⟩

theorem isClass_gradient (g : Gradient) : ∀ k ∈ gradient g, IsClass k := by
  have hdirection : IsClass ("bg-gradient-to-" ++ g.compass.suffix) := by
    cases g.compass <;> decide
  unfold gradient
  split
  · split
    · cases g.colors[g.colors.length / 2]? <;> simp +decide [hdirection]
    · simp +decide [hdirection]
  · simp

theorem isClass_wideGradient {name : String} (h : IsValue name) (g : Gradient) :
    IsClass (wideGradient name g) := by
  have hvalue : IsValue (name ++ "(" ++ Html.stops g ++ ")") := by
    simp +decide [h, isValue_stops]
  exact isClass_bracket.mpr ⟨by decide, hvalue.isClassText_arbitrary⟩

theorem isClass_backgrounds : ∀ k ∈ backgrounds e, IsClass k := by
  unfold backgrounds
  split
  · simp
  · split
    · exact isClass_gradient _
    · cases e.props.fills.getLast? with
      | none => simp
      | some p =>
        cases p with
        | solid c o => simp +decide [background]
        | linear g => simp [background]
        | radial g => simpa [background] using isClass_wideGradient (by decide) g
        | angular g => simpa [background] using isClass_wideGradient (by decide) g
        | image i => simp +decide [background, Html.pictureColor]

theorem isClass_border : ∀ k ∈ border e, IsClass k := by
  unfold border
  split
  · simp
  · split <;> simp +decide

theorem isClass_radius : ∀ k ∈ radius e, IsClass k := by
  unfold radius
  split
  · decide
  · split
    · simp
    · split
      · simp +decide
      · exact isClass_sides (by simp +decide)

theorem isClass_blending : ∀ k ∈ blending e, IsClass k := by
  have hkeyword : ∀ {m : BlendMode} {k : String}, m.keyword? = some k →
      IsClass ("mix-blend-" ++ k) := by
    intro m k h
    cases m <;> cases h <;> decide
  unfold blending
  rw [forall_mem_append]
  constructor
  · split <;> simp +decide
  · cases hk : e.props.blendMode.keyword? with
    | none => simp
    | some k => simpa using hkeyword hk

theorem isClass_effects : ∀ k ∈ effects e, IsClass k := by
  unfold effects
  rw [forall_mem_append]
  constructor
  · intro k hk
    obtain ⟨x, _, hx⟩ := mem_filterMap.mp hk
    cases x <;> simp at hx <;> simp +decide [← hx]
  · have hall := isValue_intercalate (s := ",") (by decide) (isValue_shadows e)
    split
    · simp
    · simpa +decide using hall.isClassText_arbitrary

theorem isClass_classes : ∀ k ∈ classes site, IsClass k := by
  have hlayout : ∀ k ∈ (site.element.kind.layout?.map layout).getD [], IsClass k := by
    cases site.element.kind.layout? with
    | none => simp
    | some l => exact isClass_layout l
  unfold classes appearance
  simp only [forall_mem_append]
  exact ⟨⟨⟨⟨isClass_position site, isClass_sizing site _⟩, isClass_sizing site _⟩, hlayout⟩,
    ⟨⟨⟨isClass_backgrounds _, isClass_border _⟩, isClass_radius _⟩, isClass_blending _⟩,
    isClass_effects _⟩

theorem quotable_classes : ∀ k ∈ classes site, Quotable k := fun k hk =>
  (isClass_classes site k hk).isClassText.quotable

end

theorem isClass_textAlign (t : TextAlign) : ∀ k ∈ textAlign t, IsClass k := by
  cases t <;> decide

/-! ## Classes of runs -/

def familyClass (r : TextRun) : String := bracket "font" ("'" ++ arbitrary r.font.family ++ "'")

def look (r : TextRun) : List String :=
  let spacing := r.letterSpacing.inPixels r.size
  [bracketPx "text" r.size] ++
    (if r.weight = 400 then [] else [weight r.weight]) ++
    (if r.font.isItalic then ["italic"] else []) ++
    ((r.lineHeight.pixels? r.size).map fun h => bracketPx "leading" h).toList ++
    (if spacing == 0 then [] else [bracketPx "tracking" spacing]) ++
    decoration r.decoration ++ textCase r.case ++
    ((Paint.solidFill? r.fills).map fun c => bracket "text" (color c)).toList

theorem runClasses_eq (r : TextRun) : runClasses r = familyClass r :: look r := by
  simp [runClasses, familyClass, look]

theorem isClass_look (r : TextRun) : ∀ k ∈ look r, IsClass k := by
  have hweight : IsClass (weight r.weight) := by
    unfold weight
    split <;> decide
  unfold look
  simp only [forall_mem_append]
  refine ⟨⟨⟨⟨⟨⟨⟨?_, ?_⟩, ?_⟩, ?_⟩, ?_⟩, ?_⟩, ?_⟩, ?_⟩
  · simp +decide
  · split <;> simp [hweight]
  · split <;> decide
  · cases r.lineHeight.pixels? r.size <;> simp +decide
  · split <;> simp +decide
  · cases r.decoration <;> decide
  · cases r.case <;> decide
  · cases Paint.solidFill? r.fills <;> simp +decide

theorem quotable_runClasses {r : TextRun} (h : Quotable r.font.family) :
    ∀ k ∈ runClasses r, Quotable k := by
  rw [runClasses_eq, forall_mem_cons]
  constructor
  · simp +decide [familyClass, bracket, h]
  · exact fun k hk => (isClass_look r k hk).isClassText.quotable

end Tailwind

end Artboard
