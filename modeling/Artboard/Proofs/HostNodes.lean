import Artboard.Host.Reading
import Artboard.Proofs.HostValues
import Artboard.Proofs.Merging

/-!
# Host nodes restored

A node that was read is read back from what is written for it, however either is accessed: all
fields are written, with what they were read as or their defaults, and the fields a node does not
know stand after its own, merged and apart from them.
-/

open List

namespace Artboard

/-! ## Finite colors -/

structure HostProps.HasFiniteColors (p : HostProps Float) : Prop where
  fills : ∀ l, p.fills = .known l → ∀ q ∈ l, q.HasFiniteColors
  strokes : ∀ q ∈ p.strokes, q.HasFiniteColors
  effects : ∀ e ∈ p.effects, e.HasFiniteColors
  segments : ∀ s ∈ p.segments, s.HasFiniteColors

mutual

def HostNode.HasFiniteColors : HostNode Float → Prop
  | node p children => p.HasFiniteColors ∧ HostNode.HaveFiniteColors children

def HostNode.HaveFiniteColors : List (HostNode Float) → Prop
  | [] => True
  | n :: rest => n.HasFiniteColors ∧ HostNode.HaveFiniteColors rest

end

namespace Json

open BinaryFloat

/-! ## Segments -/

theorem natural?_eq_some_iff {limit n : Nat} {v : Json} :
    natural? limit v = some n ↔ v = number (.natural n) ∧ n ≤ limit := by
  constructor
  · intro h
    unfold natural? at h
    split at h
    · split at h <;> cases h
      exact ⟨rfl, by assumption⟩
    · cases h
  · rintro ⟨rfl, hn⟩
    exact if_pos hn

theorem hostSegment?_eq_some_iff {access : Access} {v : Json} {s : HostSegment} :
    hostSegment? access v = some s ↔
      ∃ r, Record.ofJson? ["characters", "fontName", "fontWeight", "fontSize", "lineHeight",
          "letterSpacing", "textDecoration", "textCase", "fills"] v = some r ∧
        r.required "characters" text? = some s.characters ∧
        r.withDefault "fontName" font? default = some s.font ∧
        r.withDefault "fontWeight" (natural? 65535) 400 = some s.weight ∧
        r.required "fontSize" float? = some s.size ∧
        r.withDefault "lineHeight" (lineHeight? access) default = some s.lineHeight ∧
        r.withDefault "letterSpacing" (letterSpacing? access) default = some s.letterSpacing ∧
        r.withDefault "textDecoration" named? default = some s.decoration ∧
        r.withDefault "textCase" named? default = some s.case ∧
        r.withDefault "fills" (list? (hostPaint? access)) [] = some s.fills := by
  obtain ⟨characters, font, weight, size, lineHeight, letterSpacing, decoration, case, fills⟩ := s
  simp only [hostSegment?, Option.bind_eq_bind, Option.bind_eq_some_iff, Option.pure_def,
    Option.some.injEq, HostSegment.mk.injEq]
  grind

theorem lineHeight?_default (access : Access) :
    lineHeight? access (ofLineHeight default) = some default := by
  cases access <;> rfl

theorem letterSpacing?_default (access : Access) :
    letterSpacing? access (ofLetterSpacing default) = some default := by
  have hzero : measure? (object [("value", ofFloat (0 : Float))]) = some 0 :=
    measure?_eq_some_iff.mpr ⟨_, Record.ofJson?_object rfl (by decide),
      Record.required_eq rfl (float?_ofFloat isFinite_zero)⟩
  change letterSpacing? access (ofLetterSpacing (.pixels 0)) = _
  rw [letterSpacing?, tagged?_written (isReadable_ofLetterSpacing _) rfl (by simp)]
  exact congrArg (Option.map _) hzero

theorem restores_hostSegment : Restores HostSegment.HasFiniteColors hostSegment? ofHostSegment := by
  intro access v s hv h hok access'
  obtain ⟨r, hr, -, -, hweight, hsize, hlineHeight, hletterSpacing, -, -, hfills⟩ :=
    hostSegment?_eq_some_iff.mp h
  have hr := Record.isSound_ofJson? hv hr
  exact hostSegment?_eq_some_iff.mpr ⟨_, Record.ofJson?_object rfl (by decide),
    Record.required_eq rfl rfl, Record.withDefault_eq rfl (font?_ofFont s.font),
    Record.withDefault_restored hr hweight rfl
      (fun h => natural?_eq_some_iff.mpr ⟨rfl, h ▸ by decide⟩) fun _ h =>
      natural?_eq_some_iff.mpr ⟨rfl, (natural?_eq_some_iff.mp h).2⟩,
    Record.required_float hr hsize rfl,
    Record.withDefault_restored hr hlineHeight rfl (fun h => h ▸ lineHeight?_default access')
      fun hv h => restores_lineHeight hv h trivial access',
    Record.withDefault_restored hr hletterSpacing rfl
      (fun h => h ▸ letterSpacing?_default access')
      fun hv h => restores_letterSpacing hv h trivial access',
    Record.withDefault_eq rfl (named?_ofNamed s.decoration),
    Record.withDefault_eq rfl (named?_ofNamed s.case),
    Record.withDefault_restored hr hfills rfl (fun h => h ▸ rfl) fun hv h =>
      restores_hostPaint.list hv h hok access'⟩

/-! ## Reading properties -/

structure IsReadFrom (access : Access) (r : Record) (p : HostProps Float) : Prop where
  id : r.withDefault "id" text? "" = some p.id
  name : r.withDefault "name" text? "" = some p.name
  kind : r.required "type" hostKind? = some p.kind
  x : r.withDefault "x" float? 0 = some p.geometry.x
  y : r.withDefault "y" float? 0 = some p.geometry.y
  width : r.withDefault "width" float? 0 = some p.geometry.width
  height : r.withDefault "height" float? 0 = some p.geometry.height
  rotation : r.withDefault "rotation" float? 0 = some p.geometry.rotation
  visible : r.withDefault "visible" bool? true = some p.visible
  opacity : r.withDefault "opacity" float? 1 = some p.opacity
  blendMode : r.withDefault "blendMode" named? default = some p.blendMode
  fills : r.withDefault "fills" (mixed? access (list? (hostPaint? .held))) default = some p.fills
  strokes : r.withDefault "strokes" (list? (hostPaint? access)) [] = some p.strokes
  strokeWeight : r.withDefault "strokeWeight" (mixed? access float?) default = some p.strokeWeight
  strokeAlign : r.withDefault "strokeAlign" named? default = some p.strokeAlign
  cornerRadius : r.withDefault "cornerRadius" (mixed? access float?) default = some p.cornerRadius
  topLeftRadius : r.nullable "topLeftRadius" float? = some p.topLeftRadius
  topRightRadius : r.nullable "topRightRadius" float? = some p.topRightRadius
  bottomRightRadius : r.nullable "bottomRightRadius" float? = some p.bottomRightRadius
  bottomLeftRadius : r.nullable "bottomLeftRadius" float? = some p.bottomLeftRadius
  effects : r.withDefault "effects" (list? (effect? access)) [] = some p.effects
  layoutGrow : r.withDefault "layoutGrow" float? 0 = some p.layoutGrow
  layoutAlign : r.withDefault "layoutAlign" named? default = some p.layoutAlign
  layoutMode : r.nullable "layoutMode" named? = some p.layoutMode
  primarySizing : r.withDefault "primaryAxisSizingMode" named? default = some p.primarySizing
  counterSizing : r.withDefault "counterAxisSizingMode" named? default = some p.counterSizing
  primaryAlign : r.withDefault "primaryAxisAlignItems" named? default = some p.primaryAlign
  counterAlign : r.withDefault "counterAxisAlignItems" named? default = some p.counterAlign
  paddingLeft : r.withDefault "paddingLeft" float? 0 = some p.paddingLeft
  paddingRight : r.withDefault "paddingRight" float? 0 = some p.paddingRight
  paddingTop : r.withDefault "paddingTop" float? 0 = some p.paddingTop
  paddingBottom : r.withDefault "paddingBottom" float? 0 = some p.paddingBottom
  itemSpacing : r.withDefault "itemSpacing" float? 0 = some p.itemSpacing
  clipsContent : r.withDefault "clipsContent" bool? false = some p.clipsContent
  characters : r.nullable "characters" text? = some p.characters
  fontSize : r.withDefault "fontSize" (mixed? access float?) default = some p.fontSize
  font : r.withDefault "fontName" (mixed? access font?) default = some p.font
  textAlign : r.withDefault "textAlignHorizontal" named? default = some p.textAlign
  textAlignVertical :
    r.withDefault "textAlignVertical" named? default = some p.textAlignVertical
  textAutoResize : r.withDefault "textAutoResize" named? default = some p.textAutoResize
  segments : r.withDefault "styledSegments" (list? (hostSegment? access)) [] = some p.segments

theorem hostProps?_eq_some_iff {access : Access} {fields : List (String × Json)}
    {p : HostProps Float} : hostProps? access fields = some p ↔
      ∃ r, Record.ofFields? hostFields fields = some r ∧ IsReadFrom access r p ∧
        extraFields? access fields = some p.extra := by
  constructor
  · intro h
    -- every further step of the reading gives the equation of one field
    obtain ⟨r, hr, h⟩ := Option.bind_eq_some_iff.mp h
    iterate 42 obtain ⟨_, _, h⟩ := Option.bind_eq_some_iff.mp h
    cases h
    exact ⟨r, hr, by constructor <;> assumption, by assumption⟩
  · rintro ⟨r, hr, h, hextra⟩
    obtain ⟨⟩ := h
    refine Option.bind_eq_some_iff.mpr ⟨r, hr, ?_⟩
    iterate 42 refine Option.bind_eq_some_iff.mpr ⟨_, by assumption, ?_⟩
    rfl

/-! ## Fields a node does not know -/

structure AreExtra (l : List (String × Json)) : Prop extends IsMerged l where
  foreign : ∀ f ∈ l, f.1 ∉ hostFields
  readable : ∀ f ∈ l, f.2.isReadable = true

theorem areExtra_of_extraFields? {access : Access} {fields l : List (String × Json)}
    (hread : access = .held → fieldsReadable fields = true)
    (h : extraFields? access fields = some l) : AreExtra l := by
  unfold extraFields? at h
  dsimp only at h
  split at h
  · rename_i hadmits
    cases h
    have hothers : ∀ f ∈ fields.filter (fun f => !hostFields.contains f.1),
        f.2.isReadable = true := by
      cases access with
      | direct => exact fieldsReadable_iff.mp hadmits
      | held => exact fun f hf => fieldsReadable_iff.mp (hread rfl) f (mem_filter.mp hf).1
    refine ⟨isMerged_merged fun f _ => merge_merge f.2, fun f hf => ?_, fun f hf => ?_⟩
    · obtain ⟨g, hg, rfl⟩ := mem_merged hf
      simpa using (mem_filter.mp hg).2
    · obtain ⟨g, hg, rfl⟩ := mem_merged hf
      exact isReadable_merge (hothers g hg)
  · cases h

theorem extraFields?_append {fields l : List (String × Json)} (access : Access)
    (hfields : ∀ f ∈ fields, f.1 ∈ hostFields) (h : AreExtra l) :
    extraFields? access (fields ++ l) = some l := by
  have hothers : (fields ++ l).filter (fun f => !hostFields.contains f.1) = l := by
    rw [filter_append, filter_eq_nil_iff.mpr fun f hf => by simpa using hfields f hf,
      filter_eq_self.mpr fun f hf => by simpa using h.foreign f hf, nil_append]
  have hadmits : access.admits (object l) = true :=
    admits_of_isReadable (fieldsReadable_iff.mpr h.readable)
  rw [extraFields?, hothers, if_pos hadmits, h.eq]

/-! ## Properties restored -/

theorem isOpen_ofFloat : IsOpen (ofFloat : Float → Json) where
  isReadable := isReadable_ofFloat
  caseName? x := by
    unfold ofFloat
    split <;> rfl

theorem isOpen_ofFont : IsOpen ofFont := ⟨fun _ => rfl, fun _ => rfl⟩

theorem isOpen_ofPaints : IsOpen (ofList ofHostPaint) :=
  ⟨isReadable_ofList isReadable_ofHostPaint, fun _ => rfl⟩

theorem restores_font : Restores (fun _ => True) (fun _ => font?) ofFont :=
  fun _ _ f _ _ _ _ => font?_ofFont f

theorem withDefault_mixedFloat {access access' : Access} {r r' : Record} {name : String}
    {m : Mixed Float} (hr : r.IsSound)
    (h : r.withDefault name (mixed? access float?) default = some m)
    (hget : r'.get? name = some (ofMixed ofFloat m)) :
    r'.withDefault name (mixed? access' float?) default = some m :=
  Record.withDefault_restored hr h hget
    (fun hm => hm ▸ mixed?_known isOpen_ofFloat access' (float?_ofFloat isFinite_zero)) fun hv h =>
    restores_float.mixed isOpen_ofFloat hv h (fun _ _ => trivial) access'

def written (p : HostProps Float) (children : Json) : Record :=
  ⟨hostPropsFields p ++ [("children", children)]⟩

theorem isReadFrom_written {access : Access} {r : Record} {p : HostProps Float} (hr : r.IsSound)
    (h : IsReadFrom access r p) (hok : p.HasFiniteColors) (children : Json) (access' : Access) :
    IsReadFrom access' (written p children) p where
  id := Record.withDefault_eq rfl rfl
  name := Record.withDefault_eq rfl rfl
  kind := Record.required_restored hr h.kind rfl fun _ h => hostKind?_name h
  x := Record.withDefault_float hr h.x rfl isFinite_zero
  y := Record.withDefault_float hr h.y rfl isFinite_zero
  width := Record.withDefault_float hr h.width rfl isFinite_zero
  height := Record.withDefault_float hr h.height rfl isFinite_zero
  rotation := Record.withDefault_float hr h.rotation rfl isFinite_zero
  visible := Record.withDefault_eq rfl rfl
  opacity := Record.withDefault_float hr h.opacity rfl isFinite_one
  blendMode := Record.withDefault_eq rfl (named?_ofNamed p.blendMode)
  fills := Record.withDefault_restored hr h.fills rfl
    (fun h => h ▸ mixed?_known isOpen_ofPaints access' rfl) fun hv h =>
    (restores_hostPaint.list.fixed .held).mixed isOpen_ofPaints hv h hok.fills access'
  strokes := Record.withDefault_restored hr h.strokes rfl (fun h => h ▸ rfl) fun hv h =>
    restores_hostPaint.list hv h hok.strokes access'
  strokeWeight := withDefault_mixedFloat hr h.strokeWeight rfl
  strokeAlign := Record.withDefault_eq rfl (named?_ofNamed p.strokeAlign)
  cornerRadius := withDefault_mixedFloat hr h.cornerRadius rfl
  topLeftRadius := Record.nullable_float hr h.topLeftRadius rfl
  topRightRadius := Record.nullable_float hr h.topRightRadius rfl
  bottomRightRadius := Record.nullable_float hr h.bottomRightRadius rfl
  bottomLeftRadius := Record.nullable_float hr h.bottomLeftRadius rfl
  effects := Record.withDefault_restored hr h.effects rfl (fun h => h ▸ rfl) fun hv h =>
    restores_effect.list hv h hok.effects access'
  layoutGrow := Record.withDefault_float hr h.layoutGrow rfl isFinite_zero
  layoutAlign := Record.withDefault_eq rfl (named?_ofNamed p.layoutAlign)
  layoutMode := Record.nullable_eq rfl rfl fun mode _ => named?_ofNamed mode
  primarySizing := Record.withDefault_eq rfl (named?_ofNamed p.primarySizing)
  counterSizing := Record.withDefault_eq rfl (named?_ofNamed p.counterSizing)
  primaryAlign := Record.withDefault_eq rfl (named?_ofNamed p.primaryAlign)
  counterAlign := Record.withDefault_eq rfl (named?_ofNamed p.counterAlign)
  paddingLeft := Record.withDefault_float hr h.paddingLeft rfl isFinite_zero
  paddingRight := Record.withDefault_float hr h.paddingRight rfl isFinite_zero
  paddingTop := Record.withDefault_float hr h.paddingTop rfl isFinite_zero
  paddingBottom := Record.withDefault_float hr h.paddingBottom rfl isFinite_zero
  itemSpacing := Record.withDefault_float hr h.itemSpacing rfl isFinite_zero
  clipsContent := Record.withDefault_eq rfl rfl
  characters := Record.nullable_eq rfl rfl fun _ _ => rfl
  fontSize := withDefault_mixedFloat hr h.fontSize rfl
  font := Record.withDefault_restored hr h.font rfl
    (fun h => h ▸ mixed?_known isOpen_ofFont access' (font?_ofFont default)) fun hv h =>
    restores_font.mixed isOpen_ofFont hv h (fun _ _ => trivial) access'
  textAlign := Record.withDefault_eq rfl (named?_ofNamed p.textAlign)
  textAlignVertical := Record.withDefault_eq rfl (named?_ofNamed p.textAlignVertical)
  textAutoResize := Record.withDefault_eq rfl (named?_ofNamed p.textAutoResize)
  segments := Record.withDefault_restored hr h.segments rfl (fun h => h ▸ rfl) fun hv h =>
    restores_hostSegment.list hv h hok.segments access'

theorem nodup_hostFields : hostFields.Nodup := by decide

theorem hostProps?_written {access : Access} {fields : List (String × Json)} {p : HostProps Float}
    (hv : FieldsSound fields) (hread : access = .held → fieldsReadable fields = true)
    (h : hostProps? access fields = some p) (hok : p.HasFiniteColors) (children : Json)
    (access' : Access) :
    hostProps? access' (hostPropsFields p ++ ("children", children) :: p.extra) = some p := by
  obtain ⟨r, hr, hfields, hextra⟩ := hostProps?_eq_some_iff.mp h
  have hsound := Record.isSound_ofFields? (fieldsSound_iff.mp hv) hr
  have hothers := areExtra_of_extraFields? hread hextra
  have hnames : (written p children).fields.map (·.1) = hostFields := rfl
  rw [append_cons]
  exact hostProps?_eq_some_iff.mpr ⟨written p children,
    Record.ofFields?_append hnames nodup_hostFields hothers.foreign,
    isReadFrom_written hsound hfields hok children access',
    extraFields?_append access' (fun f hf => hnames ▸ mem_map_of_mem hf) hothers⟩

/-! ## Nodes restored -/

theorem childrenField?_append {access : Access} {fields rest : List (String × Json)}
    (h : ∀ f ∈ fields, f.1 ≠ "children") :
    childrenField? access (fields ++ rest) = childrenField? access rest := by
  induction fields with
  | nil => rfl
  | cons f fields ih =>
    obtain ⟨hf, hfields⟩ := forall_mem_cons.mp h
    rw [cons_append, childrenField?, if_neg hf, ih hfields]

section
variable {access : Access} (access' : Access)

theorem hostNode?_written {p : HostProps Float} {children : List (HostNode Float)}
    (hp : hostProps? access' (hostPropsFields p ++ ("children", list (ofHostNodes children)) ::
      p.extra) = some p) (hchildren : hostNodes? access' (ofHostNodes children) = some children) :
    hostNode? access' (ofHostNode (.node p children)) = some (.node p children) := by
  have hfields : childrenField? access' (hostPropsFields p ++
      ("children", list (ofHostNodes children)) :: p.extra) = some children := by
    rw [childrenField?_append (by simp [hostPropsFields]), childrenField?, if_pos rfl, childList?,
      hchildren]
  rw [ofHostNode, hostNode?, hp, hfields]
  rfl

-- The induction is on the value a node was read from: only this tells that floats are finite and
-- that extra fields are merged, of the node and of all below it.
mutual

theorem hostNode?_ofHostNode : ∀ {v n}, IsSound v → (access = .held → isReadable v = true) →
    hostNode? access v = some n → n.HasFiniteColors → hostNode? access' (ofHostNode n) = some n
  | object fields, _, hv, hread, h, hok => by
    rw [hostNode?] at h
    obtain ⟨p, hp, h⟩ := Option.bind_eq_some_iff.mp h
    obtain ⟨children, hchildren, h⟩ := Option.bind_eq_some_iff.mp h
    cases h
    exact hostNode?_written access' (hostProps?_written hv hread hp hok.1 _ access')
      (childrenField?_ofHostNodes hv hread hchildren hok.2)

theorem childrenField?_ofHostNodes : ∀ {fields ns}, FieldsSound fields →
    (access = .held → fieldsReadable fields = true) → childrenField? access fields = some ns →
    HostNode.HaveFiniteColors ns → hostNodes? access' (ofHostNodes ns) = some ns
  | [], _, _, _, h, _ => by
    cases h
    rfl
  | (k, v) :: rest, _, hv, hread, h, hok => by
    simp only [fieldsReadable, Bool.and_eq_true] at hread
    rw [childrenField?] at h
    split at h
    · exact childList?_ofHostNodes hv.1 (fun ha => (hread ha).1) h hok
    · exact childrenField?_ofHostNodes hv.2 (fun ha => (hread ha).2) h hok

theorem childList?_ofHostNodes : ∀ {v ns}, IsSound v → (access = .held → isReadable v = true) →
    childList? access v = some ns → HostNode.HaveFiniteColors ns →
    hostNodes? access' (ofHostNodes ns) = some ns
  | list items, _, hv, hread, h, hok => by
    rw [childList?] at h
    exact hostNodes?_ofHostNodes hv hread h hok

theorem hostNodes?_ofHostNodes : ∀ {items ns}, ItemsSound items →
    (access = .held → itemsReadable items = true) → hostNodes? access items = some ns →
    HostNode.HaveFiniteColors ns → hostNodes? access' (ofHostNodes ns) = some ns
  | [], _, _, _, h, _ => by
    cases h
    rfl
  | v :: rest, _, hv, hread, h, hok => by
    simp only [itemsReadable, Bool.and_eq_true] at hread
    rw [hostNodes?] at h
    obtain ⟨n, hn, h⟩ := Option.bind_eq_some_iff.mp h
    obtain ⟨ns, hns, h⟩ := Option.bind_eq_some_iff.mp h
    cases h
    rw [ofHostNodes, hostNodes?, hostNode?_ofHostNode hv.1 (fun ha => (hread ha).1) hn hok.1,
      hostNodes?_ofHostNodes hv.2 (fun ha => (hread ha).2) hns hok.2]
    rfl

end

end

theorem hostNodes?_eq_mapM (access : Access) (items : List Json) :
    hostNodes? access items = items.mapM (hostNode? access) := by
  induction items with
  | nil => rfl
  | cons v rest ih =>
    rw [hostNodes?, ih, mapM_cons]

end Json

open Json

/-! ## What is read -/

/-- A node read from a value whose numbers are as a text gives them, and which is readable if it is
held. -/
def HostNode.IsRead (n : HostNode Float) : Prop :=
  ∃ access v, IsSound v ∧ (access = .held → v.isReadable = true) ∧ hostNode? access v = some n

theorem isRead_of_selection? {v : Json} {nodes : List (HostNode Float)} (hv : v.IsSound)
    (hread : v.isReadable = true) (h : v.selection? = some nodes) : ∀ n ∈ nodes, n.IsRead := by
  unfold selection? at h
  split at h
  · rename_i items
    rw [hostNodes?_eq_mapM] at h
    intro n hn
    obtain ⟨w, hw, hwn⟩ := forall_of_mapM h n hn
    exact ⟨.held, w, itemsSound_iff.mp hv w hw, fun _ => itemsReadable_iff.mp hread w hw, hwn⟩
  · obtain ⟨n, hn, rfl⟩ := Option.map_eq_some_iff.mp h
    exact forall_mem_singleton.mpr ⟨.held, v, hv, fun _ => hread, hn⟩

theorem isRead_of_selectionOfText {s : String} {nodes : List (HostNode Float)}
    (h : HostNode.selectionOfText s = .ok nodes) : ∀ n ∈ nodes, n.IsRead := by
  unfold HostNode.selectionOfText at h
  split at h
  · cases h
  · rename_i v alone hv
    split at h
    · rename_i hread
      split at h
      · cases h
      · rename_i hnodes
        split at h <;> cases h
        exact isRead_of_selection? (isSound_readFirst? hv) hread hnodes
    · cases h

/-- **Reading what is written for a node restores it**, if the node was read itself and its colors are
finite. All nodes of a selection in a text are read in this sense. -/
theorem hostNode_restored :
    (∀ n : HostNode Float, n.IsRead → n.HasFiniteColors →
      ∀ access, hostNode? access (ofHostNode n) = some n) ∧
    ∀ s nodes, HostNode.selectionOfText s = .ok nodes → ∀ n ∈ nodes, n.IsRead := by
  refine ⟨?_, fun _ _ => isRead_of_selectionOfText⟩
  rintro n ⟨_, _, hv, hread, hn⟩ hok access
  exact hostNode?_ofHostNode access hv hread hn hok

/-- A frame with a field of its own, paints known and unknown, and a text in it. -/
def banner : Json :=
  object [("type", text "FRAME"), ("strokeWeight", text "mixed"), ("topLeftRadius", null),
    ("layoutMode", text "VERTICAL"),
    ("effects", list [object [("type", text "LAYER_BLUR"), ("radius", number (.natural 4))]]),
    ("fills", list [object [("type", text "PATTERN")],
      object [("type", text "SOLID"), ("color", object [("r", number (.natural 1)),
        ("g", number (.natural 0)), ("b", number (.natural 0))])]]),
    ("note", object [("z", null), ("a", null), ("z", bool true)]),
    ("children", list [object [("type", text "TEXT"), ("styledSegments",
      list [object [("characters", text "hi"), ("fontSize", number (.natural 12))]])]])]

def red : Color :=
  ⟨BinaryFloat.nearest .positive 1 0, BinaryFloat.nearest .positive 0 0,
    BinaryFloat.nearest .positive 0 0, 1⟩

def bannerNode : HostNode Float :=
  .node { HostProps.plain "" "" .frame ⟨0, 0, 0, 0, 0⟩ with
      strokeWeight := .indeterminate
      layoutMode := some .vertical
      effects := [.layerBlur ⟨BinaryFloat.nearest .positive 4 0, true⟩]
      fills := .known [.unsupported, .solid red 1 true]
      extra := [("note", object [("z", bool true), ("a", null)])] }
    [.node { HostProps.plain "" "" .text ⟨0, 0, 0, 0, 0⟩ with
      segments := [⟨"hi", default, 400, BinaryFloat.nearest .positive 12 0, default, default,
        default, default, []⟩] } []]

theorem bannerNode_hasFiniteColors : bannerNode.HasFiniteColors := by
  have hred : red.IsFinite := by decide +kernel
  refine ⟨⟨?_, ?_, ?_, ?_⟩, ⟨⟨?_, ?_, ?_, ?_⟩, trivial⟩, trivial⟩
  · rintro _ ⟨⟩
    exact forall_mem_cons.mpr ⟨trivial, forall_mem_singleton.mpr hred⟩
  · exact fun _ h => absurd h not_mem_nil
  · exact forall_mem_singleton.mpr trivial
  · exact fun _ h => absurd h not_mem_nil
  · rintro _ ⟨⟩
    exact fun _ h => absurd h not_mem_nil
  · exact fun _ h => absurd h not_mem_nil
  · exact fun _ h => absurd h not_mem_nil
  · exact forall_mem_singleton.mpr fun _ h => absurd h not_mem_nil

def frameText : String := "[\x7b\"type\": \"FRAME\"\x7d]"

theorem banner_restored :
    (hostNode? .direct banner = some bannerNode ∧
      ∀ access, hostNode? access (ofHostNode bannerNode) = some bannerNode) ∧
    ∃ nodes, HostNode.selectionOfText frameText = .ok nodes ∧ nodes ≠ [] ∧
      ∀ n ∈ nodes, n.IsRead := by
  have hsound : banner.IsSound := by
    simp [banner, Json.IsSound, ItemsSound, FieldsSound, JsonNumber.IsSound]
  have hread : hostNode? .direct banner = some bannerNode := rfl
  have htext : readFirst? frameText = some (list [object [("type", text "FRAME")]], true) := by cbv
  have hselection : HostNode.selectionOfText frameText =
      .ok [.node (.plain "" "" .frame ⟨0, 0, 0, 0, 0⟩) []] := by
    rw [HostNode.selectionOfText, htext]
    rfl
  exact ⟨⟨hread, hostNode_restored.1 bannerNode ⟨.direct, banner, hsound, by simp, hread⟩
    bannerNode_hasFiniteColors⟩, _, hselection, cons_ne_nil _ _, hostNode_restored.2 _ _ hselection⟩

end Artboard
