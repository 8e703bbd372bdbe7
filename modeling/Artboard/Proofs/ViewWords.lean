import Artboard.Proofs.Branches
import Artboard.Proofs.WidgetWords

/-!
# Words of views

A view is written on several lines, and the brace that opens on one of them closes on another. Taken
together the lines of a view have brackets that match, and their literals are the texts and the
families of the runs, as in the other language.
-/

open List

namespace Artboard

open Artboard.Expr

/-! ## Modifiers -/

def Modifier.Keeps (v : Vocabulary) (m : Modifier) : Prop :=
  IsPlain m.name ∧ KeepsArguments v m.arguments

namespace SwiftUi

section
variable {q : Prop}

@[simp] theorem keeps_color (c : Color) : (color c).Keeps (.any q) := by
  unfold color inline
  by_cases h : 1 ≤ c.a <;> simp +decide [h]

@[simp] theorem keeps_pictureColor : pictureColor.Keeps (.any q) := by
  simp +decide [pictureColor, inline]

@[simp] theorem keeps_stops (g : Gradient) : (stops g).Keeps (.any q) := by
  unfold stops
  rw [Keeps, keepsAll_iff]
  intro e he
  obtain ⟨p, _, rfl⟩ := mem_map.mp he
  simp +decide [inline]

theorem keeps_paint (e : Element Float) (p : Paint) : (paint e p).Keeps (.any q) := by
  cases p with
  | solid c o => simp [paint]
  | linear g =>
    have hstart : IsPlain g.compass.unitPoints.1 := by cases g.compass <;> decide
    have hend : IsPlain g.compass.unitPoints.2 := by cases g.compass <;> decide
    simp +decide [paint, inline, hstart, hend]
  | radial g => simp +decide [paint, inline]
  | angular g => simp +decide [paint, inline]
  | image i => simp [paint]

theorem keeps_fill? {e : Element Float} : ∀ x ∈ fill? e, x.Keeps (.any q) := by
  intro x hx
  obtain ⟨p, _, rfl⟩ := Option.map_eq_some_iff.mp hx
  exact keeps_paint e p

@[simp] theorem keeps_outline (e : Element Float) : (outline e).Keeps (.any q) := by
  unfold outline
  split
  · simp +decide [inline]
  · split
    · simp +decide [inline]
    · split <;> simp +decide [inline]

theorem keeps_header (l : Option (ContainerLayout Float)) : (header l).Keeps (.any q) := by
  have hlayers : layers.Keeps (.any q) := by simp +decide [layers, inline]
  unfold header
  split
  · exact hlayers
  · rename_i l
    have hrow : IsPlain (rowAlignment l.alignment) := by cases l.alignment <;> decide
    have hcolumn : IsPlain (columnAlignment l.alignment) := by cases l.alignment <;> decide
    split
    · simp +decide [inline, hrow]
    · simp +decide [inline, hcolumn]
    · exact hlayers

section
variable (e : Element Float)

theorem keeps_padding (p : Padding Float) : ∀ m ∈ padding p, m.Keeps (.any q) := by
  unfold padding
  split
  · simp
  · split <;> simp +decide [Modifier.Keeps, inline]

theorem keeps_textAlignment (a : TextAlign) : IsPlain (textAlignment a) := by
  cases a <;> decide

theorem keeps_textModifiers (runs : List TextRun) (content : TextContent) :
    ∀ m ∈ textModifiers runs content, m.Keeps (.any q) := by
  have halign := keeps_textAlignment content.alignHorizontal
  have hspacing : ∀ m ∈ lineSpacing runs, m.Keeps (.any q) := by
    unfold lineSpacing
    split
    · simp
    · split
      · split <;> simp +decide [Modifier.Keeps]
      · simp
  unfold textModifiers
  rw [forall_mem_append]
  refine ⟨?_, hspacing⟩
  split
  · simp
  · simp
  · simp +decide [Modifier.Keeps, halign]

theorem keeps_filled {o : Option Expr} (h : ∀ x ∈ o, x.Keeps (.any q)) :
    ∀ m ∈ (o.map fun p => (⟨"fill", [("", p)]⟩ : Modifier)).toList, m.Keeps (.any q) := by
  cases o with
  | none => simp
  | some x => simp +decide [Modifier.Keeps, h x rfl]

theorem keeps_drawing (c : Context) : ∀ m ∈ drawing c e, m.Keeps (.any q) := by
  unfold drawing
  simp only
  split
  · exact keeps_textModifiers _ _
  · simp +decide [Modifier.Keeps]
  · apply keeps_filled
    intro x hx
    obtain ⟨c, _, rfl⟩ := Option.map_eq_some_iff.mp hx
    exact keeps_color c
  · simp
  · simp
  · exact keeps_filled keeps_fill?

theorem keeps_frames (site : Site Float) : ∀ m ∈ frames site, m.Keeps (.any q) := by
  have hframe : ∀ {extents : List Argument}, KeepsArguments (.any q) extents →
      ∀ m ∈ frame site.element extents, m.Keeps (.any q) := by
    intro extents hextents
    unfold frame
    split
    · simp
    · cases site.element.kind.content? with
      | none => simp +decide [Modifier.Keeps, hextents]
      | some content =>
        simp +decide [Modifier.Keeps, hextents, keeps_textAlignment content.alignHorizontal]
  have hfixed : ∀ axis, KeepsArguments (.any q) (fixedExtent site axis) := by
    intro axis
    unfold fixedExtent
    cases site.sizing axis <;> simp
  have hfilled : ∀ axis, KeepsArguments (.any q) (filledExtent site axis) := by
    intro axis
    have hname : IsPlain (greatestExtentName axis) := by cases axis <;> decide
    unfold filledExtent
    cases site.sizing axis <;> simp +decide [hname]
  unfold frames
  rw [forall_mem_append]
  exact ⟨hframe (keepsArguments_append.mpr ⟨hfixed _, hfixed _⟩),
    hframe (keepsArguments_append.mpr ⟨hfilled _, hfilled _⟩)⟩

theorem keeps_backdrop : ∀ m ∈ backdrop e, m.Keeps (.any q) := by
  have hclipping : ∀ m ∈ clipping e, m.Keeps (.any q) := by
    unfold clipping
    split
    · split <;> simp +decide [Modifier.Keeps]
    · simp +decide [Modifier.Keeps]
  have hbackground : ∀ m ∈ ((fill? e).map fun p => (⟨"background", [("", p)]⟩ : Modifier)).toList,
      m.Keeps (.any q) := by
    cases hfill : fill? e with
    | none => simp
    | some x => simp +decide [Modifier.Keeps, keeps_fill? x hfill]
  unfold backdrop
  split
  · exact forall_mem_append.mpr ⟨hbackground, hclipping⟩
  · exact forall_mem_append.mpr ⟨hbackground, hclipping⟩
  · simp

theorem keeps_stroke : ∀ m ∈ stroke e, m.Keeps (.any q) := by
  unfold stroke
  split
  · simp
  · simp
  · simp
  · cases e.stroke? <;> simp +decide [Modifier.Keeps]

theorem keeps_effects (xs : List Effect) : ∀ m ∈ xs.flatMap effect, m.Keeps (.any q) := by
  have heffect : ∀ x, ∀ m ∈ effect x, m.Keeps (.any q) := by
    intro x
    cases x <;> simp +decide [effect, Modifier.Keeps]
  intro m hm
  obtain ⟨x, _, hx⟩ := mem_flatMap.mp hm
  exact heffect x m hx

theorem isPlain_camel {b : BlendMode} {k : String} (h : b.keyword? = some k) :
    IsPlain (NameStyle.camel.apply k) := by
  cases b <;> cases h <;> decide +kernel

theorem keeps_blending : ∀ m ∈ blending e, m.Keeps (.any q) := by
  unfold blending
  rw [forall_mem_append]
  constructor
  · split <;> simp +decide [Modifier.Keeps]
  · cases hk : e.props.blendMode.keyword? with
    | none => simp
    | some k => simp +decide [Modifier.Keeps, isPlain_camel hk]

theorem keeps_placement (site : Site Float) : ∀ m ∈ placement site, m.Keeps (.any q) := by
  unfold placement
  simp only
  rw [forall_mem_append]
  constructor
  · split <;> simp +decide [Modifier.Keeps, inline]
  · split <;> simp +decide [Modifier.Keeps]

theorem keeps_modifiers (site : Site Float) (c : Context) :
    ∀ m ∈ modifiers site c, m.Keeps (.any q) := by
  have hpadding : ∀ m ∈ (site.element.kind.layout?.map fun l => padding l.padding).getD [],
      m.Keeps (.any q) := by
    cases site.element.kind.layout? with
    | none => simp
    | some l => exact keeps_padding l.padding
  unfold modifiers
  simp only [forall_mem_append]
  exact ⟨⟨⟨⟨⟨⟨⟨keeps_drawing _ c, hpadding⟩, keeps_frames site⟩, keeps_backdrop _⟩, keeps_stroke _⟩,
    keeps_effects _⟩, keeps_blending _⟩, keeps_placement site⟩

end

end

/-! ## Texts -/

theorem speaks_methods {ms : List Modifier} (hms : ∀ m ∈ ms, m.Keeps (.any False)) {e : Expr}
    {us : List String} (he : e.Speaks us) :
    (ms.foldl (fun e m => .method e m.name m.arguments) e).Speaks us := by
  induction ms generalizing e with
  | nil => exact he
  | cons m ms ih =>
    rw [forall_mem_cons] at hms
    have hsilent := spokenOfArguments_eq_nil (by simp) hms.1.2
    have hspoken : (method e m.name m.arguments).spoken = us := by
      rw [spoken, he.spoken_eq, hsilent, append_nil]
    exact ih hms.2 ⟨⟨⟨he.keeps, hms.1.1⟩, hms.1.2.any⟩, hspoken⟩

def look (r : TextRun) : List Modifier :=
  let spacing := r.letterSpacing.inPixels r.size
  (if r.weight = 400 then [] else [⟨"fontWeight", [("", .atom (weight r.weight))]⟩]) ++
    (if r.font.isItalic then [⟨"italic", []⟩] else []) ++ decoration r.decoration ++
    (if spacing == 0 then [] else [⟨"kerning", [("", .length spacing)]⟩]) ++
    ((Paint.solidFill? r.fills).map fun c => ⟨"foregroundColor", [("", color c)]⟩).toList

theorem runModifiers_eq (r : TextRun) : runModifiers r =
    ⟨"font", [("", inline ".custom" [("", .literal r.font.family), ("size", .length r.size)])]⟩ ::
      look r := by
  simp [runModifiers, look]

theorem keeps_look (r : TextRun) : ∀ m ∈ look r, m.Keeps (.any False) := by
  have hweight : IsPlain (weight r.weight) := by
    unfold weight
    split <;> decide
  unfold look
  simp only [forall_mem_append]
  refine ⟨⟨⟨⟨?_, ?_⟩, ?_⟩, ?_⟩, ?_⟩
  · split <;> simp +decide [Modifier.Keeps, hweight]
  · split <;> simp +decide [Modifier.Keeps]
  · cases r.decoration <;> simp +decide [decoration, Modifier.Keeps]
  · split <;> simp +decide [Modifier.Keeps]
  · cases Paint.solidFill? r.fills <;> simp +decide [Modifier.Keeps]

theorem speaks_plainText (s : String) : (plainText s).Speaks [s] := by
  constructor
  · simp +decide [plainText, inline]
  · simp [plainText, inline]

theorem speaks_run (r : TextRun) : (run r).Speaks r.spoken := by
  unfold run
  rw [runModifiers_eq, foldl_cons]
  apply speaks_methods (keeps_look r)
  constructor
  · simp +decide [plainText, inline]
  · simp [plainText, inline, TextRun.spoken]

theorem speaks_textExpr (runs : List TextRun) (content : TextContent) :
    (textExpr runs content).Speaks (content.spoken runs) := by
  have hruns := Each.of_forall speaks_run runs
  match runs with
  | [] => exact speaks_plainText _
  | [r] => exact speaks_run r
  | _ :: _ :: _ => exact ⟨keepsAll_of_each hruns, spokenOfAll_of_each hruns⟩

theorem literals_isSound : literals.IsSound where
  isDelimiter := .inl rfl
  run_escape c ps ls w := by
    have hescaped := fun {c} (hc : c ≠ '\n') =>
      CodeReader.run_escaped (d := '"') (.inl rfl) hc ps ls w
    unfold literals Escape.doubleQuotedChar
    simp only
    split
    · exact hescaped (by decide)
    · exact hescaped (by decide)
    · exact hescaped (by decide)
    · exact hescaped (by decide)
    · rename_i hslash hquote hfeed _
      exact CodeReader.run_inside hquote hslash hfeed ps ls w

/-! ## Lines -/

def unlines (ls : List String) : List Char := ls.flatMap fun l => l.toList ++ ['\n']

theorem unlines_cons (l : String) (ls : List String) :
    unlines (l :: ls) = l.toList ++ ('\n' :: unlines ls) := by
  simp [unlines]

theorem unlines_append (ls ms : List String) : unlines (ls ++ ms) = unlines ls ++ unlines ms :=
  flatMap_append

theorem unlines_intercalate : ∀ {ls : List String}, ls ≠ [] →
    ("\n".intercalate ls).toList ++ ['\n'] = unlines ls
  | [l], _ => by simp [unlines]
  | l :: m :: ls, _ => by
    have ih := unlines_intercalate (cons_ne_nil m ls)
    rw [String.intercalate_cons_cons, unlines_cons, ← ih]
    simp

def Yields (cs : List Char) (us : List String) : Prop :=
  CodeReader.Yields '"' cs (us.map literals.inside)

theorem isAdditive_yields : IsAdditive Yields where
  nil := (CodeReader.isAdditive_yields '"').nil
  append := by
    intro cs ds us vs hcs hds
    have hboth := (CodeReader.isAdditive_yields '"').append hcs hds
    rwa [← map_append] at hboth

theorem yields_plain {cs : List Char} (h : ∀ c ∈ cs, CodeReader.isPlain c = true) : Yields cs [] :=
  CodeReader.yields_plain (.inl rfl) h

theorem yields_feed : Yields ['\n'] [] := yields_plain (all_eq_true.mp rfl)

theorem yields_spaces (n : Nat) : Yields (Markup.spaces n).toList [] := by
  apply yields_plain
  intro c hc
  rw [Markup.spaces, String.toList_ofList] at hc
  cases eq_of_mem_replicate hc
  rfl

theorem Yields.of_line_feed {cs : List Char} {us : List String} (h : Yields (cs ++ ['\n']) us) :
    Yields cs us := by
  intro ps ls
  have hrun := h ps ls
  rw [CodeReader.run_append] at hrun
  obtain ⟨r, hr, hfeed⟩ := Option.bind_eq_some_iff.mp hrun
  rw [CodeReader.run_cons] at hfeed
  obtain ⟨r', hstep, hnil⟩ := Option.bind_eq_some_iff.mp hfeed
  cases hnil
  rw [hr, (CodeReader.step_line_feed (.inl rfl) hstep).2]

theorem yields_line {l : String} {ls : List String} {us vs : List String} (hl : Yields l.toList us)
    (hls : Yields (unlines ls) vs) : Yields (unlines (l :: ls)) (us ++ vs) := by
  have hrest := isAdditive_yields.append yields_feed hls
  rw [unlines_cons]
  exact isAdditive_yields.append hl hrest

theorem yields_modifierText {m : Modifier} (hm : m.Keeps (.any False)) :
    Yields (modifierText m).toList [] := by
  have hd : CodeReader.IsDelimiter '"' := .inl rfl
  have hname : IsPlain ("." ++ m.name) := isPlain_append.mpr ⟨by decide, hm.1⟩
  have hinside := yields_bracketed hd (o := "(") (c := ")") rfl rfl rfl
    (yields_arrange hd false (each_argumentTexts literals_isSound m.arguments hm.2))
  rw [spokenOfArguments_eq_nil (by simp) hm.2] at hinside
  have hall := (CodeReader.isAdditive_yields '"').append (yields_isPlain hd hname) hinside
  unfold Yields modifierText
  simpa [String.append_assoc] using hall

theorem yields_modifierLines (depth : Nat) : ∀ {ms : List Modifier},
    (∀ m ∈ ms, m.Keeps (.any False)) → Yields (unlines (modifierLines depth ms)) []
  | [], _ => isAdditive_yields.nil
  | m :: ms, h => by
    rw [forall_mem_cons] at h
    have hline := isAdditive_yields.append (yields_spaces depth) (yields_modifierText h.1)
    rw [← String.toList_append] at hline
    exact yields_line hline (yields_modifierLines depth h.2)

/-! ## Views -/

/-- The lines of a view have brackets that match, and these literals are read in them. -/
def Tells (v : View) (us : List String) : Prop := ∀ depth, Yields (unlines (lines depth v)) us

theorem yields_linesOfAll {vs : List View} {us : List String} (h : Each Tells vs us) (depth : Nat) :
    Yields (unlines (linesOfAll depth vs)) us := by
  induction h with
  | nil => exact isAdditive_yields.nil
  | cons hv _ ih =>
    rw [linesOfAll, unlines_append]
    exact isAdditive_yields.append (hv depth) ih

section
variable {ms : List Modifier} (hms : ∀ m ∈ ms, m.Keeps (.any False)) {us : List String}
include hms

theorem tells_leaf {e : Expr} (he : e.Speaks us) : Tells (.leaf e ms) us := by
  intro depth
  have htext := yields_text literals_isSound e he.keeps
  rw [he.spoken_eq] at htext
  have hline := isAdditive_yields.append (yields_spaces depth) htext
  rw [← String.toList_append] at hline
  have hall := yields_line hline (yields_modifierLines (depth + 4) hms)
  rw [lines]
  simpa using hall

theorem tells_stack {h : Expr} (hh : h.Keeps (.any False)) {vs : List View}
    (hvs : Each Tells vs us) : Tells (.stack h vs ms) us := by
  intro depth
  have hheader := yields_text literals_isSound h hh.any
  rw [spoken_eq_nil (by simp) hh] at hheader
  have hfirst : Yields (Markup.spaces depth ++ h.text literals ++ " ").toList [] := by
    rw [String.toList_append, String.toList_append]
    exact isAdditive_yields.append (isAdditive_yields.append (yields_spaces depth) hheader)
      (yields_plain (all_eq_true.mp rfl))
  -- the views stand between braces that match, deeper by four spaces
  have hinside : Yields ('\n' :: (unlines (linesOfAll (depth + 4) vs) ++
      (Markup.spaces depth).toList)) us := by
    have hcontent := isAdditive_yields.append (yields_linesOfAll hvs (depth + 4))
      (yields_spaces depth)
    have hall := isAdditive_yields.append yields_feed hcontent
    simpa using hall
  have hbraces : Yields ('\x7b' :: (('\n' :: (unlines (linesOfAll (depth + 4) vs) ++
      (Markup.spaces depth).toList)) ++ ['\x7d'])) us := hinside.bracketed (.inl rfl) rfl
  have hlast : Yields ('\n' :: unlines (modifierLines depth ms)) [] :=
    isAdditive_yields.append yields_feed (yields_modifierLines depth hms)
  have hall := isAdditive_yields.append (isAdditive_yields.append hfirst hbraces) hlast
  rw [lines, unlines_append, unlines_cons, unlines_cons]
  simpa using hall

end

theorem tells_spacer (length : Float) : Tells (spacer length) [] := by
  apply tells_leaf (by simp)
  exact Keeps.speaks (v := .any False) (by simp +decide [inline]) (by simp)

theorem each_spread (l : Option (ContainerLayout Float)) {vs : List View} {us : List String}
    (h : Each Tells vs us) : Each Tells (spread l vs) us := by
  have hfirst : ∀ {ws : List View}, Each Tells ws us → Each Tells (spacer 0 :: ws) us :=
    fun hws => Each.cons (tells_spacer 0) hws
  unfold spread
  split
  · exact h
  · rename_i l
    split
    · split
      · exact h
      · have hlast := (hfirst h).append (.single (tells_spacer 0))
        rwa [append_nil] at hlast
      · exact hfirst h
      · exact h.intersperse (tells_spacer _)
    · exact h

mutual

theorem tells_view (c : Context) : ∀ b : Branch Float, Tells (view c b) (b.spoken ["photo"] c)
  | .node site children => by
    have hms := keeps_modifiers (q := False) site c
    have hchildren := each_views c children
    unfold view Branch.spoken
    simp only
    cases hk : site.element.kind with
    | container l => exact tells_stack hms (keeps_header _) (each_spread _ hchildren)
    | group => exact tells_stack hms (keeps_header _) hchildren
    | text content => exact tells_leaf hms (speaks_textExpr _ _)
    | boolean =>
      exact tells_leaf hms ⟨by simp +decide [inline], by simp [inline]⟩
    | _ => exact tells_leaf hms ((keeps_outline (q := False) _).speaks (by simp))

theorem each_views (c : Context) : ∀ bs : List (Branch Float),
    Each Tells (views c bs) (Branch.spokenOfAll ["photo"] c bs)
  | [] => .nil
  | b :: bs => .cons (tells_view c b) (each_views c bs)

end

theorem tells_single {vs : List View} {us : List String} (h : Each Tells vs us) :
    Tells (single vs) us := by
  unfold single
  split
  · cases h with
    | cons hv hnil =>
      cases hnil
      rwa [append_nil]
  · exact tells_stack (by simp) (by simp +decide [inline]) h

theorem lines_ne_nil (v : View) : lines 0 v ≠ [] := by
  cases v <;> simp [lines]

theorem readsAs_body (c : Context) (bs : List (Branch Float)) :
    ReadsAs '"' (body c bs) ((Branch.spokenOfAll ["photo"] c bs).map Escape.doubleQuoted) := by
  have hlines := tells_single (each_views c bs) 0
  rw [← unlines_intercalate (lines_ne_nil _)] at hlines
  exact readsAs_of_run (.inl rfl) (hlines.of_line_feed [] [])

end SwiftUi

/-! ## Both languages -/

/-- **Bodies are properly bracketed, whatever the host calls things and writes.** Their literals are
the texts and the families of the runs, each closed and as it was escaped. -/
theorem normalize_readsAs (o : NormalizeOptions Float) (c : Context)
    (selection : List (HostNode Float)) {a : Arena Float}
    (h : (normalizeInto o c selection).1 = .ok a) (d : Context) :
    ∃ bs, a.branches = .ok bs ∧
      ReadsAs '"' (Framework.code d bs .swiftUi)
        ((Branch.spokenOfAll ["photo"] d bs).map Escape.doubleQuoted) ∧
      ReadsAs '\'' (Framework.code d bs .flutter)
        ((Branch.spokenOfAll [] d bs).map Escape.singleQuoted) := by
  obtain ⟨_, rfl⟩ := normalizeSources_eq_ok_iff.mp h
  have hholds := Arena.restructure_holds o (HostNode.toSources selection)
  exact ⟨_, hholds.branches_eq, SwiftUi.readsAs_body d _, Flutter.readsAs_body d _⟩

def riddle : List (HostNode Float) :=
  [.node { HostProps.plain "1" "\x7d\"'" .text ⟨0, 0, 40, 20, 0⟩ with
    characters := some "(\"\n", font := .known ⟨"it's [", "Regular"⟩ } []]

theorem riddle_readsAs : ∃ (a : Arena Float) (bs : List (Branch Float)),
    (normalizeInto default .empty riddle).1 = .ok a ∧ a.branches = .ok bs ∧
      readLiterals '"' (Framework.code .empty bs .swiftUi) = some ["(\\\"\\n", "it's ["] ∧
      readLiterals '\'' (indentLines (Framework.code .empty bs .flutter) 4) =
        some ["(\"\\n", "it\\'s ["] := by
  have hholds := Arena.restructure_holds default (HostNode.toSources riddle)
  obtain ⟨bs, hbs, hview, hwidget⟩ := normalize_readsAs default .empty riddle rfl .empty
  cases hbs.symm.trans hholds.branches_eq
  exact ⟨_, _, rfl, hbs, hview.literals, hwidget.shifted 4⟩

end Artboard
