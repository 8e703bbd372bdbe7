import Artboard.Proofs.Restoring

/-!
# Host values restored

Colors, effects, fonts and paints of the host are read back from what is written for them, as long
as their colors are finite. What a reader requires of each field is stated first, then the fields
are restored one by one.
-/

open List

namespace Artboard

namespace Json

/-! ## Names -/

instance : LawfulNamed BlendMode := ⟨fun a => by cases a <;> rfl⟩
instance : LawfulNamed StrokeAlign := ⟨fun a => by cases a <;> rfl⟩
instance : LawfulNamed LayoutAlign := ⟨fun a => by cases a <;> rfl⟩
instance : LawfulNamed ScaleMode := ⟨fun a => by cases a <;> rfl⟩
instance : LawfulNamed TextDecoration := ⟨fun a => by cases a <;> rfl⟩
instance : LawfulNamed TextCase := ⟨fun a => by cases a <;> rfl⟩
instance : LawfulNamed TextAlign := ⟨fun a => by cases a <;> rfl⟩
instance : LawfulNamed TextAlignVertical := ⟨fun a => by cases a <;> rfl⟩
instance : LawfulNamed TextAutoResize := ⟨fun a => by cases a <;> rfl⟩
instance : LawfulNamed HostLayoutMode := ⟨fun a => by cases a <;> rfl⟩
instance : LawfulNamed HostSizingMode := ⟨fun a => by cases a <;> rfl⟩
instance : LawfulNamed HostPrimaryAlign := ⟨fun a => by cases a <;> rfl⟩
instance : LawfulNamed HostCounterAlign := ⟨fun a => by cases a <;> rfl⟩

theorem hostKind?_name {v : Json} {k : HostKind} (h : hostKind? v = some k) :
    hostKind? (text k.name) = some k := by
  obtain ⟨s, _, rfl⟩ := Option.map_eq_some_iff.mp h
  have hname : (HostKind.ofName s).name = s := by
    unfold HostKind.ofName
    cases hs : HostKind.known.find? fun k => k.name == s with
    | none => rfl
    | some k => exact eq_of_beq (find?_some (p := fun k => HostKind.name k == s) hs)
  rw [hname]
  rfl

/-! ## Readable writings -/

@[simp] theorem isReadable_ofColor (c : Color) : (ofColor c).isReadable = true := by
  simp [ofColor, isReadable, fieldsReadable]

@[simp] theorem isReadable_ofOffset (p : Point Float) : (ofOffset p).isReadable = true := by
  simp [ofOffset, isReadable, fieldsReadable]

@[simp] theorem isReadable_ofEffect (e : Effect) : (ofEffect e).isReadable = true := by
  cases e <;> simp [ofEffect, shadowFields, blurFields, isReadable, fieldsReadable]

@[simp] theorem isReadable_ofLineHeight (l : LineHeight) : (ofLineHeight l).isReadable = true := by
  cases l <;> simp [ofLineHeight, ofMeasure, isReadable, fieldsReadable]

@[simp] theorem isReadable_ofLetterSpacing (l : LetterSpacing) :
    (ofLetterSpacing l).isReadable = true := by
  cases l <;> simp [ofLetterSpacing, ofMeasure, isReadable, fieldsReadable]

@[simp] theorem isReadable_ofAffine (m : Affine Float) : (ofAffine m).isReadable = true := by
  simp [ofAffine, ofRow, isReadable, itemsReadable]

@[simp] theorem isReadable_ofGradientStop (s : GradientStop) :
    (ofGradientStop s).isReadable = true := by
  simp [ofGradientStop, isReadable, fieldsReadable]

@[simp] theorem isReadable_ofHostPaint (p : HostPaint) : (ofHostPaint p).isReadable = true := by
  cases p with
  | image hash =>
    cases hash <;> simp [ofHostPaint, isReadable, fieldsReadable, ofOption, ofNamed]
  | _ =>
    simp [ofHostPaint, hostGradientFields, isReadable, fieldsReadable,
      isReadable_ofList isReadable_ofGradientStop]

end Json

/-! ## Finite colors -/

def Color.IsFinite (c : Color) : Prop :=
  BinaryFloat.IsFinite c.r ∧ BinaryFloat.IsFinite c.g ∧ BinaryFloat.IsFinite c.b ∧
    BinaryFloat.IsFinite c.a

instance (c : Color) : Decidable c.IsFinite := inferInstanceAs (Decidable (_ ∧ _))

def Effect.HasFiniteColors : Effect → Prop
  | dropShadow s | innerShadow s => s.color.IsFinite
  | layerBlur _ | backgroundBlur _ => True

def HostGradient.HasFiniteColors (g : HostGradient) : Prop := ∀ s ∈ g.stops, s.color.IsFinite

def HostPaint.HasFiniteColors : HostPaint → Prop
  | solid c _ _ => c.IsFinite
  | linear g | radial g | angular g => g.HasFiniteColors
  | image .. | unsupported => True

def HostSegment.HasFiniteColors (s : HostSegment) : Prop := ∀ p ∈ s.fills, p.HasFiniteColors

namespace Json

open BinaryFloat

/-! ## Values of the host -/

theorem isFinite_zero : IsFinite (0 : Float) := by decide +kernel

theorem isFinite_one : IsFinite (1 : Float) := by decide +kernel

theorem color?_eq_some_iff {v : Json} {c : Color} : color? v = some c ↔
    ∃ r, Record.ofJson? ["r", "g", "b", "a"] v = some r ∧ r.required "r" float? = some c.r ∧
      r.required "g" float? = some c.g ∧ r.required "b" float? = some c.b ∧
      r.withDefault "a" float? 1 = some c.a := by
  obtain ⟨r, g, b, a⟩ := c
  simp only [color?, Option.bind_eq_bind, Option.bind_eq_some_iff, Option.pure_def,
    Option.some.injEq, Color.mk.injEq]
  grind

theorem color?_ofColor {c : Color} (hc : c.IsFinite) : color? (ofColor c) = some c := by
  obtain ⟨hr, hg, hb, ha⟩ := hc
  exact color?_eq_some_iff.mpr ⟨_, Record.ofJson?_object rfl (by decide),
    Record.required_eq rfl (float?_ofFloat32 hr), Record.required_eq rfl (float?_ofFloat32 hg),
    Record.required_eq rfl (float?_ofFloat32 hb), Record.withDefault_eq rfl (float?_ofFloat32 ha)⟩

theorem font?_ofFont (f : Font) : font? (ofFont f) = some f := by
  have hr : Record.ofJson? ["family", "style"] (ofFont f) = some _ :=
    Record.ofJson?_object rfl (by decide)
  rw [font?, hr]
  rfl

theorem offset?_eq_some_iff {v : Json} {p : Point Float} : offset? v = some p ↔
    ∃ r, Record.ofJson? ["x", "y"] v = some r ∧ r.required "x" float? = some p.x ∧
      r.required "y" float? = some p.y := by
  obtain ⟨x, y⟩ := p
  simp only [offset?, Option.bind_eq_bind, Option.bind_eq_some_iff, Option.pure_def,
    Option.some.injEq, Point.mk.injEq]
  grind

theorem offset?_ofOffset {v : Json} (hv : v.IsSound) {p : Point Float} (h : offset? v = some p) :
    offset? (ofOffset p) = some p := by
  obtain ⟨r, hr, hx, hy⟩ := offset?_eq_some_iff.mp h
  have hr := Record.isSound_ofJson? hv hr
  exact offset?_eq_some_iff.mpr ⟨_, Record.ofJson?_object rfl (by decide),
    Record.required_float hr hx rfl, Record.required_float hr hy rfl⟩

theorem offset?_zero : offset? (ofOffset ⟨0, 0⟩) = some ⟨0, 0⟩ :=
  offset?_eq_some_iff.mpr ⟨_, Record.ofJson?_object rfl (by decide),
    Record.required_eq rfl (float?_ofFloat isFinite_zero),
    Record.required_eq rfl (float?_ofFloat isFinite_zero)⟩

theorem shadow?_eq_some_iff {v : Json} {s : Shadow} : shadow? v = some s ↔
    ∃ r, Record.ofJson? ["color", "offset", "radius", "spread", "visible"] v = some r ∧
      r.required "color" color? = some s.color ∧
      r.withDefault "offset" offset? ⟨0, 0⟩ = some s.offset ∧
      r.withDefault "radius" float? 0 = some s.radius ∧
      r.withDefault "spread" float? 0 = some s.spread ∧
      r.withDefault "visible" bool? true = some s.visible := by
  obtain ⟨color, offset, radius, spread, visible⟩ := s
  simp only [shadow?, Option.bind_eq_bind, Option.bind_eq_some_iff, Option.pure_def,
    Option.some.injEq, Shadow.mk.injEq]
  grind

theorem shadow?_shadowFields {v : Json} (hv : v.IsSound) {s : Shadow} (h : shadow? v = some s)
    (hc : s.color.IsFinite) : shadow? (object (shadowFields s)) = some s := by
  obtain ⟨r, hr, -, hoffset, hradius, hspread, -⟩ := shadow?_eq_some_iff.mp h
  have hr := Record.isSound_ofJson? hv hr
  exact shadow?_eq_some_iff.mpr ⟨_, Record.ofJson?_object rfl (by decide),
    Record.required_eq rfl (color?_ofColor hc),
    Record.withDefault_restored hr hoffset rfl (fun h => h ▸ offset?_zero) fun hv h =>
      offset?_ofOffset hv h,
    Record.withDefault_float hr hradius rfl isFinite_zero,
    Record.withDefault_float hr hspread rfl isFinite_zero, Record.withDefault_eq rfl rfl⟩

theorem blur?_eq_some_iff {v : Json} {b : Blur} : blur? v = some b ↔
    ∃ r, Record.ofJson? ["radius", "visible"] v = some r ∧
      r.required "radius" float? = some b.radius ∧
      r.withDefault "visible" bool? true = some b.visible := by
  obtain ⟨radius, visible⟩ := b
  simp only [blur?, Option.bind_eq_bind, Option.bind_eq_some_iff, Option.pure_def,
    Option.some.injEq, Blur.mk.injEq]
  grind

theorem blur?_blurFields {v : Json} (hv : v.IsSound) {b : Blur} (h : blur? v = some b) :
    blur? (object (blurFields b)) = some b := by
  obtain ⟨r, hr, hradius, -⟩ := blur?_eq_some_iff.mp h
  have hr := Record.isSound_ofJson? hv hr
  exact blur?_eq_some_iff.mpr ⟨_, Record.ofJson?_object rfl (by decide),
    Record.required_float hr hradius rfl, Record.withDefault_eq rfl rfl⟩

theorem restores_effect : Restores Effect.HasFiniteColors effect? ofEffect := by
  intro access v e hv h hok access'
  obtain ⟨⟨t, rest⟩, hrest, h⟩ := Option.bind_eq_some_iff.mp h
  have hsound := isSound_of_tagged? hv hrest
  dsimp only at h
  split at h
  · obtain ⟨s, hs, rfl⟩ := Option.map_eq_some_iff.mp h
    rw [effect?, tagged?_written (isReadable_ofEffect _) rfl (by simp [shadowFields])]
    exact congrArg (Option.map _) (shadow?_shadowFields hsound hs hok)
  · obtain ⟨s, hs, rfl⟩ := Option.map_eq_some_iff.mp h
    rw [effect?, tagged?_written (isReadable_ofEffect _) rfl (by simp [shadowFields])]
    exact congrArg (Option.map _) (shadow?_shadowFields hsound hs hok)
  · obtain ⟨b, hb, rfl⟩ := Option.map_eq_some_iff.mp h
    rw [effect?, tagged?_written (isReadable_ofEffect _) rfl (by simp [blurFields])]
    exact congrArg (Option.map _) (blur?_blurFields hsound hb)
  · obtain ⟨b, hb, rfl⟩ := Option.map_eq_some_iff.mp h
    rw [effect?, tagged?_written (isReadable_ofEffect _) rfl (by simp [blurFields])]
    exact congrArg (Option.map _) (blur?_blurFields hsound hb)
  · cases h

theorem measure?_eq_some_iff {v : Json} {x : Float} : measure? v = some x ↔
    ∃ r, Record.ofJson? ["value"] v = some r ∧ r.required "value" float? = some x := by
  rw [measure?, Option.bind_eq_bind, Option.bind_eq_some_iff]

theorem measure?_value {v : Json} (hv : v.IsSound) {x : Float} (h : measure? v = some x) :
    measure? (object [("value", ofFloat x)]) = some x := by
  obtain ⟨r, hr, hx⟩ := measure?_eq_some_iff.mp h
  exact measure?_eq_some_iff.mpr ⟨_, Record.ofJson?_object rfl (by decide),
    Record.required_float (Record.isSound_ofJson? hv hr) hx rfl⟩

theorem restores_lineHeight : Restores (fun _ => True) lineHeight? ofLineHeight := by
  intro access v l hv h _ access'
  obtain ⟨⟨t, rest⟩, hrest, h⟩ := Option.bind_eq_some_iff.mp h
  have hsound := isSound_of_tagged? hv hrest
  dsimp only at h
  split at h
  · split at h <;> cases h
    rw [lineHeight?, tagged?_written (isReadable_ofLineHeight _) rfl (by simp)]
    rfl
  · obtain ⟨x, hx, rfl⟩ := Option.map_eq_some_iff.mp h
    rw [lineHeight?, tagged?_written (isReadable_ofLineHeight _) rfl (by simp)]
    exact congrArg (Option.map _) (measure?_value hsound hx)
  · obtain ⟨x, hx, rfl⟩ := Option.map_eq_some_iff.mp h
    rw [lineHeight?, tagged?_written (isReadable_ofLineHeight _) rfl (by simp)]
    exact congrArg (Option.map _) (measure?_value hsound hx)
  · cases h

theorem restores_letterSpacing : Restores (fun _ => True) letterSpacing? ofLetterSpacing := by
  intro access v l hv h _ access'
  obtain ⟨⟨t, rest⟩, hrest, h⟩ := Option.bind_eq_some_iff.mp h
  have hsound := isSound_of_tagged? hv hrest
  dsimp only at h
  split at h
  · obtain ⟨x, hx, rfl⟩ := Option.map_eq_some_iff.mp h
    rw [letterSpacing?, tagged?_written (isReadable_ofLetterSpacing _) rfl (by simp)]
    exact congrArg (Option.map _) (measure?_value hsound hx)
  · obtain ⟨x, hx, rfl⟩ := Option.map_eq_some_iff.mp h
    rw [letterSpacing?, tagged?_written (isReadable_ofLetterSpacing _) rfl (by simp)]
    exact congrArg (Option.map _) (measure?_value hsound hx)
  · cases h

/-! ## Paints -/

theorem row?_eq_some_iff {v : Json} {x y z : Float} : row? v = some (x, y, z) ↔
    ∃ u₁ u₂ u₃, v = list [u₁, u₂, u₃] ∧ u₁.float? = some x ∧ u₂.float? = some y ∧
      u₃.float? = some z := by
  constructor
  · intro h
    unfold row? at h
    split at h
    · simp only [Option.bind_eq_bind, Option.bind_eq_some_iff, Option.pure_def, Option.some.injEq,
        Prod.mk.injEq] at h
      grind
    · cases h
  · rintro ⟨u₁, u₂, u₃, rfl, h₁, h₂, h₃⟩
    rw [row?, h₁, h₂, h₃]
    rfl

theorem row?_ofFloat {x y z : Float} (hx : IsFinite x) (hy : IsFinite y) (hz : IsFinite z) :
    row? (list [ofFloat x, ofFloat y, ofFloat z]) = some (x, y, z) :=
  row?_eq_some_iff.mpr ⟨_, _, _, rfl, float?_ofFloat hx, float?_ofFloat hy, float?_ofFloat hz⟩

theorem row?_restored {v : Json} (hv : v.IsSound) {x y z : Float} (h : row? v = some (x, y, z)) :
    row? (list [ofFloat x, ofFloat y, ofFloat z]) = some (x, y, z) := by
  obtain ⟨u₁, u₂, u₃, rfl, h₁, h₂, h₃⟩ := row?_eq_some_iff.mp h
  obtain ⟨hv₁, hv₂, hv₃, -⟩ := hv
  exact row?_ofFloat (isFinite_of_float? hv₁ h₁) (isFinite_of_float? hv₂ h₂)
    (isFinite_of_float? hv₃ h₃)

theorem affine?_rows {u w : Json} {m : Affine Float} (hu : row? u = some (m.a, m.c, m.tx))
    (hw : row? w = some (m.b, m.d, m.ty)) : affine? (list [u, w]) = some m := by
  rw [affine?, hu, hw]
  rfl

theorem affine?_ofAffine {v : Json} (hv : v.IsSound) {m : Affine Float} (h : affine? v = some m) :
    affine? (ofAffine m) = some m := by
  unfold affine? at h
  split at h
  · obtain ⟨hu, hw, -⟩ := hv
    obtain ⟨⟨a, c, tx⟩, hr, h⟩ := Option.bind_eq_some_iff.mp h
    obtain ⟨⟨b, d, ty⟩, hs, h⟩ := Option.bind_eq_some_iff.mp h
    cases h
    exact affine?_rows (row?_restored hu hr) (row?_restored hw hs)
  · cases h

theorem gradientStop?_eq_some_iff {v : Json} {s : GradientStop} : gradientStop? v = some s ↔
    ∃ r, Record.ofJson? ["position", "color"] v = some r ∧
      r.required "position" float? = some s.position ∧
      r.required "color" color? = some s.color := by
  obtain ⟨position, color⟩ := s
  simp only [gradientStop?, Option.bind_eq_bind, Option.bind_eq_some_iff, Option.pure_def,
    Option.some.injEq, GradientStop.mk.injEq]
  grind

theorem restores_gradientStop :
    Restores (fun s => s.color.IsFinite) (fun _ => gradientStop?) ofGradientStop := by
  intro _ v s hv h hok _
  obtain ⟨r, hr, hposition, -⟩ := gradientStop?_eq_some_iff.mp h
  have hr := Record.isSound_ofJson? hv hr
  exact gradientStop?_eq_some_iff.mpr ⟨_, Record.ofJson?_object rfl (by decide),
    Record.required_float hr hposition rfl, Record.required_eq rfl (color?_ofColor hok)⟩

theorem hostGradient?_eq_some_iff {v : Json} {g : HostGradient} : hostGradient? v = some g ↔
    ∃ r, Record.ofJson? ["gradientStops", "gradientTransform", "opacity", "visible"] v = some r ∧
      r.required "gradientStops" (list? gradientStop?) = some g.stops ∧
      r.withDefault "gradientTransform" affine? Affine.identity = some g.transform ∧
      r.withDefault "opacity" float? 1 = some g.opacity ∧
      r.withDefault "visible" bool? true = some g.visible := by
  obtain ⟨stops, transform, opacity, visible⟩ := g
  simp only [hostGradient?, Option.bind_eq_bind, Option.bind_eq_some_iff, Option.pure_def,
    Option.some.injEq, HostGradient.mk.injEq]
  grind

theorem affine?_identity : affine? (ofAffine Affine.identity) = some Affine.identity :=
  affine?_rows (row?_ofFloat isFinite_one isFinite_zero isFinite_zero)
    (row?_ofFloat isFinite_zero isFinite_one isFinite_zero)

theorem hostGradient?_fields {v : Json} (hv : v.IsSound) {g : HostGradient}
    (h : hostGradient? v = some g) (hok : g.HasFiniteColors) :
    hostGradient? (object (hostGradientFields g)) = some g := by
  obtain ⟨r, hr, hstops, htransform, hopacity, -⟩ := hostGradient?_eq_some_iff.mp h
  have hr := Record.isSound_ofJson? hv hr
  exact hostGradient?_eq_some_iff.mpr ⟨_, Record.ofJson?_object rfl (by decide),
    Record.required_restored hr hstops rfl fun hv h =>
      restores_gradientStop.list.back hv h hok,
    Record.withDefault_restored hr htransform rfl (fun h => h ▸ affine?_identity) fun hv h =>
      affine?_ofAffine hv h,
    Record.withDefault_float hr hopacity rfl isFinite_one, Record.withDefault_eq rfl rfl⟩

theorem solidPaint?_eq_some_iff {v : Json} {p : HostPaint} : solidPaint? v = some p ↔
    ∃ c o b, p = .solid c o b ∧ ∃ r, Record.ofJson? ["color", "opacity", "visible"] v = some r ∧
      r.required "color" color? = some c ∧ r.withDefault "opacity" float? 1 = some o ∧
      r.withDefault "visible" bool? true = some b := by
  simp only [solidPaint?, Option.bind_eq_bind, Option.bind_eq_some_iff, Option.pure_def,
    Option.some.injEq]
  grind

theorem imagePaint?_eq_some_iff {v : Json} {p : HostPaint} : imagePaint? v = some p ↔
    ∃ hash mode o b, p = .image hash mode o b ∧
      ∃ r, Record.ofJson? ["imageHash", "scaleMode", "opacity", "visible"] v = some r ∧
        r.nullable "imageHash" text? = some hash ∧
        r.withDefault "scaleMode" namedWithin? default = some mode ∧
        r.withDefault "opacity" float? 1 = some o ∧ r.withDefault "visible" bool? true = some b := by
  simp only [imagePaint?, Option.bind_eq_bind, Option.bind_eq_some_iff, Option.pure_def,
    Option.some.injEq]
  grind

theorem solidPaint?_object {v : Json} (hv : v.IsSound) {p : HostPaint}
    (h : solidPaint? v = some p) (hok : p.HasFiniteColors) : ∃ c o b, p = .solid c o b ∧
      solidPaint? (object [("color", ofColor c), ("opacity", ofFloat o), ("visible", bool b)]) =
        some p := by
  obtain ⟨c, o, b, rfl, r, hr, -, hopacity, -⟩ := solidPaint?_eq_some_iff.mp h
  have hr := Record.isSound_ofJson? hv hr
  exact ⟨c, o, b, rfl, solidPaint?_eq_some_iff.mpr ⟨c, o, b, rfl, _,
    Record.ofJson?_object rfl (by decide), Record.required_eq rfl (color?_ofColor hok),
    Record.withDefault_float hr hopacity rfl isFinite_one, Record.withDefault_eq rfl rfl⟩⟩

theorem imagePaint?_object {v : Json} (hv : v.IsSound) {p : HostPaint}
    (h : imagePaint? v = some p) : ∃ hash mode o b, p = .image hash mode o b ∧
      imagePaint? (object [("imageHash", ofOption text hash), ("scaleMode", ofNamed mode),
        ("opacity", ofFloat o), ("visible", bool b)]) = some p := by
  obtain ⟨hash, mode, o, b, rfl, r, hr, -, -, hopacity, -⟩ := imagePaint?_eq_some_iff.mp h
  have hr := Record.isSound_ofJson? hv hr
  exact ⟨hash, mode, o, b, rfl, imagePaint?_eq_some_iff.mpr ⟨hash, mode, o, b, rfl, _,
    Record.ofJson?_object rfl (by decide), Record.nullable_eq rfl rfl fun _ _ => rfl,
    Record.withDefault_eq rfl (namedWithin?_ofNamed mode),
    Record.withDefault_float hr hopacity rfl isFinite_one, Record.withDefault_eq rfl rfl⟩⟩

theorem restores_hostPaint : Restores HostPaint.HasFiniteColors hostPaint? ofHostPaint := by
  intro access v p hv h hok access'
  obtain ⟨⟨t, rest⟩, hrest, h⟩ := Option.bind_eq_some_iff.mp h
  have hsound := isSound_of_tagged? hv hrest
  dsimp only at h
  split at h
  · obtain ⟨c, o, b, rfl, hback⟩ := solidPaint?_object hsound h hok
    rw [hostPaint?, tagged?_written (isReadable_ofHostPaint _) rfl (by simp)]
    exact hback
  · obtain ⟨g, hg, rfl⟩ := Option.map_eq_some_iff.mp h
    rw [hostPaint?, tagged?_written (isReadable_ofHostPaint _) rfl (by simp [hostGradientFields])]
    exact congrArg (Option.map _) (hostGradient?_fields hsound hg hok)
  · obtain ⟨g, hg, rfl⟩ := Option.map_eq_some_iff.mp h
    rw [hostPaint?, tagged?_written (isReadable_ofHostPaint _) rfl (by simp [hostGradientFields])]
    exact congrArg (Option.map _) (hostGradient?_fields hsound hg hok)
  · obtain ⟨g, hg, rfl⟩ := Option.map_eq_some_iff.mp h
    rw [hostPaint?, tagged?_written (isReadable_ofHostPaint _) rfl (by simp [hostGradientFields])]
    exact congrArg (Option.map _) (hostGradient?_fields hsound hg hok)
  · obtain ⟨hash, mode, o, b, rfl, hback⟩ := imagePaint?_object hsound h
    rw [hostPaint?, tagged?_written (isReadable_ofHostPaint _) rfl (by simp)]
    exact hback
  · split at h <;> cases h
    rw [hostPaint?, tagged?_written (isReadable_ofHostPaint _) rfl (by simp)]
    rfl

end Json

end Artboard
