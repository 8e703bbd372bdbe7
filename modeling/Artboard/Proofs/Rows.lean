import Artboard.Proofs.Branches
import Artboard.Proofs.Shape
import Artboard.Proofs.Walking
import Artboard.Proofs.Writers

/-!
# Rows of documents

Both document formats write the same rows, and the rows are those of the tree: a leaf or a text has
one of its own, a container or a group has one before and one after those of its children. Only the
attribute with the style is the format's own.
-/

open List

namespace Artboard

/-- A line of a document: its depth, and the element it stands for with its number. -/
inductive Row
  | single (depth slot : Nat) (e : Element Float)
  | opening (depth slot : Nat) (e : Element Float)
  | closing (depth : Nat)

namespace Row

def slot? : Row → Option Nat
  | single _ i _ | opening _ i _ => some i
  | closing _ => none

def tagText (name : String) (e : Element Float) (attr style : String) : String :=
  "<" ++ name ++ " data-name=\"" ++ Escape.markup e.props.name ++ "\" " ++ attr ++ "=\"" ++
    style ++ "\">"

def spanText (attr style : String) (r : TextRun) : String :=
  "<span " ++ attr ++ "=\"" ++ style ++ "\">" ++ Escape.markup r.characters ++ "</span>"

/-- A row as it is written, given the format's own attribute and what it writes there for elements
and for runs. -/
def text (c : Context) (attr : String) (own : Nat → String) (run : TextRun → String) :
    Row → String
  | single depth i e =>
    match e.kind.content? with
    | none => Markup.spaces (2 * depth) ++ tagText "div" e attr (own i) ++ "</div>"
    | some content =>
      Markup.spaces (2 * depth) ++ tagText "p" e attr (own i) ++
        (match e.textRuns c with
          | [] => Escape.markup content.characters
          | [r] => Escape.markup r.characters
          | rs => String.join (rs.map fun r => spanText attr (run r) r)) ++ "</p>"
  | opening depth i e => Markup.spaces (2 * depth) ++ tagText "div" e attr (own i)
  | closing depth => Markup.spaces (2 * depth) ++ "</div>"

end Row

namespace Arena

/-- The rows of numbers at a depth, in the order of the children. -/
inductive Draws (a : Arena Float) : Nat → List Nat → List Row → Prop
  | nil {depth : Nat} : Draws a depth [] []
  | leaf {depth i : Nat} {s : Slot Float} {is : List Nat} {rest : List Row}
      (hs : a.get? i = some s) (hparent : s.element.kind.isParent = false)
      (hrest : Draws a depth is rest) :
      Draws a depth (i :: is) (.single depth i s.element :: rest)
  | box {depth i : Nat} {s : Slot Float} {is : List Nat} {inside rest : List Row}
      (hs : a.get? i = some s) (hparent : s.element.kind.isParent = true)
      (hinside : Draws a (depth + 1) s.children inside) (hrest : Draws a depth is rest) :
      Draws a depth (i :: is)
        (.opening depth i s.element :: (inside ++ .closing depth :: rest))

end Arena

/-! ## Rows of scenes -/

namespace Scene

mutual

def rows (depth : Nat) : Scene Float → List Row
  | node i e cs =>
    if e.kind.isParent then .opening depth i e :: (rowsOfAll (depth + 1) cs ++ [.closing depth])
    else [.single depth i e]

def rowsOfAll (depth : Nat) : List (Scene Float) → List Row
  | [] => []
  | s :: ss => rows depth s ++ rowsOfAll depth ss

end

def IsLeafy (p : Option Nat) (ss : List (Scene Float)) : Prop :=
  ∀ {i t}, (i, t) ∈ slotsOfAll p ss → t.element.kind.isParent = false → t.children = []

theorem IsLeafy.children {p : Option Nat} {i : Nat} {e : Element Float} {cs ss : List (Scene Float)}
    (h : IsLeafy p (.node i e cs :: ss)) : IsLeafy (some i) cs := by
  intro j t ht
  exact h (mem_append_left _ (mem_cons_of_mem _ ht))

theorem IsLeafy.tail {p : Option Nat} {s : Scene Float} {ss : List (Scene Float)}
    (h : IsLeafy p (s :: ss)) : IsLeafy p ss := by
  intro j t ht
  exact h (mem_append_right _ ht)

theorem IsLeafy.eq_nil {p : Option Nat} {i : Nat} {e : Element Float} {cs ss : List (Scene Float)}
    (h : IsLeafy p (.node i e cs :: ss)) (hparent : e.kind.isParent = false) : cs = [] :=
  map_eq_nil_iff.mp (h (mem_append_left _ mem_cons_self) hparent)

theorem draws_rows {a : Arena Float} (p : Option Nat) (depth : Nat) : ∀ (ss : List (Scene Float)),
    (∀ {i t}, (i, t) ∈ slotsOfAll p ss → a.get? i = some t) →
      a.Draws depth (ss.map slot) (rowsOfAll depth ss)
  | [], _ => .nil
  | .node i e cs :: ss, hget => by
    have hslot := hget (mem_append_left _ mem_cons_self)
    have hrest := draws_rows p depth ss fun hm => hget (mem_append_right _ hm)
    rw [map_cons, slot, rowsOfAll, rows]
    by_cases hparent : e.kind.isParent = true
    · have hinside := draws_rows (some i) (depth + 1) cs fun hm =>
        hget (mem_append_left _ (mem_cons_of_mem _ hm))
      rw [if_pos hparent, cons_append, append_assoc, singleton_append]
      exact .box hslot hparent hinside hrest
    · rw [if_neg hparent, singleton_append]
      exact .leaf hslot (by simpa using hparent) hrest

theorem slots_rowsOfAll (p : Option Nat) (depth : Nat) : ∀ (ss : List (Scene Float)),
    IsLeafy p ss → (rowsOfAll depth ss).filterMap Row.slot? = numbersOfAll ss
  | [], _ => rfl
  | .node i e cs :: ss, hleafy => by
    have hrest := slots_rowsOfAll p depth ss hleafy.tail
    rw [rowsOfAll, rows, numbersOfAll, numbers, filterMap_append, hrest]
    by_cases hparent : e.kind.isParent = true
    · have hinside := slots_rowsOfAll (some i) (depth + 1) cs hleafy.children
      simp [hparent, Row.slot?, hinside]
    · have hnil := hleafy.eq_nil (by simpa using hparent)
      simp [hparent, Row.slot?, hnil, numbersOfAll]

end Scene

/-! ## Lines of documents -/

namespace Markup

theorem tag_heading (s : Styling) (c : Context) (site : Site Float) (name : String) :
    tag name (s.heading c site) =
      Row.tagText name site.element s.attributeName
        (s.separator.intercalate (s.pieces c site)) := by
  apply String.toList_injective
  simp [tag, Styling.heading, Styling.name, Styling.style, Row.tagText, Attribute.text]

theorem inlineText_inlines (s : Styling) (runs : List TextRun) (content : TextContent) :
    String.join ((s.inlines runs content).map inlineText) =
      match runs with
      | [] => Escape.markup content.characters
      | [r] => Escape.markup r.characters
      | rs => String.join (rs.map fun r =>
          Row.spanText s.attributeName (s.separator.intercalate (s.run r)) r) := by
  have hspan : ∀ r : TextRun, inlineText (.span (s.style (s.run r)) (Escape.markup r.characters)) =
      Row.spanText s.attributeName (s.separator.intercalate (s.run r)) r := by
    intro r
    apply String.toList_injective
    simp [inlineText, tag, Styling.style, Row.spanText, Attribute.text]
  rcases runs with _ | ⟨r, _ | ⟨r', rs⟩⟩
  · simp [Styling.inlines, inlineText]
  · simp [Styling.inlines, inlineText]
  · simp [Styling.inlines, hspan, Function.comp_def]

end Markup

namespace Arena

variable (a : Arena Float) (s : Markup.Styling) (c : Context)

def styleAt (i : Nat) : String :=
  match (a.get? i).map a.site with
  | some (.ok site) => s.separator.intercalate (s.pieces c site)
  | _ => ""

def rowText : Row → String :=
  Row.text c s.attributeName (a.styleAt s c) fun r => s.separator.intercalate (s.run r)

variable {a}

theorem styleAt_eq {i : Nat} {t : Slot Float} {site : Site Float} (ht : a.get? i = some t)
    (hsite : a.site t = .ok site) :
    a.styleAt s c i = s.separator.intercalate (s.pieces c site) := by
  simp [styleAt, ht, hsite]

theorem tag_eq_tagText {i : Nat} {t : Slot Float} {site : Site Float} (ht : a.get? i = some t)
    (hsite : a.site t = .ok site) (name : String) : Markup.tag name (s.heading c site) =
      Row.tagText name site.element s.attributeName (a.styleAt s c i) := by
  rw [styleAt_eq s c ht hsite, Markup.tag_heading]

theorem lines_eq_rows {p : Option Nat} {f : Option Flow} (hp : a.parentFlow p = .ok f)
    (depth : Nat) : ∀ (ss : List (Scene Float)),
    (∀ {i t}, (i, t) ∈ Scene.slotsOfAll p ss → a.get? i = some t) →
      Markup.linesOfAll (2 * depth) (s.documents c (Scene.branches f ss)) =
        (Scene.rowsOfAll depth ss).map (a.rowText s c)
  | [], _ => rfl
  | .node i e cs :: ss, hget => by
    -- the children are one level deeper, under the flow of their parent
    have hslot := hget (mem_append_left _ mem_cons_self)
    have htag := tag_eq_tagText s c hslot (site_scene hp e cs)
    have hrest := lines_eq_rows hp depth ss fun hm => hget (mem_append_right _ hm)
    rw [Scene.branches, Scene.branch, Markup.Styling.documents, Markup.linesOfAll, hrest,
      Scene.rowsOfAll, map_append]
    congr 1
    cases hcontent : e.kind.content? with
    | some content =>
      have hk := Kind.content?_eq_some_iff.mp hcontent
      rw [s.document_of_text c _ hk, Markup.lines, htag, Markup.inlineText_inlines, Scene.rows,
        if_neg (by simp [hk, Kind.isParent]), map_singleton, rowText, Row.text]
      simp only [hcontent]
    | none =>
      by_cases hparent : e.kind.isParent = true
      · have hinside := lines_eq_rows (parentFlow_some hslot) (depth + 1) cs fun hm =>
          hget (mem_append_left _ (mem_cons_of_mem _ hm))
        rw [s.document_of_isParent c _ hparent, Markup.lines, htag, if_pos hparent, Scene.rows,
          if_pos hparent, map_cons, map_append, ← hinside]
        rfl
      · rw [s.document_of_leaf c _ (by simpa using hparent) hcontent, Markup.lines, htag,
          Scene.rows, if_neg hparent, map_singleton, rowText, Row.text]
        simp only [hcontent]

end Arena

/-! ## Both document formats -/

theorem Arena.isLeafy_restructure (o : NormalizeOptions Float) (ss : List (Source Float)) :
    Scene.IsLeafy none (Source.buildAll o none ss ⟨0, []⟩).1 := by
  intro i t ht hparent
  obtain ⟨hi, hslot⟩ := (restructure_holds o ss).mem_slots_iff.mp ht
  obtain ⟨f, hf, hfit⟩ := exists_unfolds_of_reachable (restructure_unfoldsAll o ss)
    (Figure.isFit_figures o ss) hi
  obtain ⟨s, hs, he, hcs⟩ := unfolds_iff.mp hf
  cases hs.symm.trans hslot
  have hnil : f.children = [] := (Figure.every_iff.mp hfit).1.eq_nil (by rw [← he]; exact hparent)
  have hlength := length_of_unfoldsAll hcs
  rw [hnil] at hlength
  exact length_eq_zero_iff.mp hlength

/-- **Both document formats write the rows of the tree,** and differ in the attribute that holds the
style. -/
theorem normalize_draws (o : NormalizeOptions Float) (c : Context)
    (selection : List (HostNode Float)) {a : Arena Float}
    (h : (normalizeInto o c selection).1 = .ok a) (d : Context) :
    ∃ bs rows, a.branches = .ok bs ∧ a.Draws 0 a.roots rows ∧
      (rows.filterMap Row.slot?).Nodup ∧
      (∀ i, i ∈ rows.filterMap Row.slot? ↔ a.Reachable i) ∧
      ∃ (own own' : Nat → String) (run run' : TextRun → String),
        Markup.linesOfAll 0 (Html.styling.documents d bs) =
          rows.map (Row.text d "style" own run) ∧
        Markup.linesOfAll 0 (Tailwind.styling.documents d bs) =
          rows.map (Row.text d "class" own' run') ∧
        Framework.code d bs .html = "\n".intercalate (rows.map (Row.text d "style" own run)) ∧
        Framework.code d bs .tailwind =
          "\n".intercalate (rows.map (Row.text d "class" own' run')) := by
  obtain ⟨_, rfl⟩ := normalizeSources_eq_ok_iff.mp h
  have hholds := Arena.restructure_holds o (HostNode.toSources selection)
  have hslots := Scene.slots_rowsOfAll none 0 _
    (Arena.isLeafy_restructure o (HostNode.toSources selection))
  have hlines : ∀ s : Markup.Styling, Markup.linesOfAll 0 (s.documents d _) = _ := fun s =>
    Arena.lines_eq_rows s d rfl 0 _ hholds.get?
  refine ⟨_, _, hholds.branches_eq, ?_, ?_, ?_, _, _, _, _, hlines Html.styling,
    hlines Tailwind.styling, ?_, ?_⟩
  · rw [hholds.roots_eq]
    exact Scene.draws_rows none 0 _ hholds.get?
  · rw [hslots]
    exact hholds.nodup
  · intro i
    rw [hslots, ← hholds.walk_eq]
    exact hholds.mem_walk_iff
  · exact (Html.body_eq d _).trans (congrArg ("\n".intercalate ·) (hlines Html.styling))
  · exact (Tailwind.body_eq d _).trans (congrArg ("\n".intercalate ·) (hlines Tailwind.styling))

theorem toolbar_draws : ∃ a : Arena Float, (normalizeInto default .empty toolbar).1 = .ok a ∧
    ∃ bs rows, a.branches = .ok bs ∧ a.Draws 0 [0] rows ∧ 2 ∈ rows.filterMap Row.slot? ∧
      ∃ own run, Markup.linesOfAll 0 (Html.styling.documents .empty bs) =
        rows.map (Row.text .empty "style" own run) := by
  have hholds := Arena.restructure_holds default (HostNode.toSources toolbar)
  have hrow := hholds.get? (i := 0) mem_cons_self
  have hreach := Arena.Reachable.child (.root (by exact mem_cons_self)) hrow mem_cons_self
  obtain ⟨bs, rows, hbs, hdraws, _, hslots, own, _, run, _, hhtml, _⟩ :=
    normalize_draws default .empty toolbar rfl .empty
  exact ⟨_, rfl, bs, rows, hbs, hdraws, (hslots 2).mpr hreach, own, run, hhtml⟩

end Artboard
