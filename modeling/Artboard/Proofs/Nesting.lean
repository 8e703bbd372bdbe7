import Artboard.Code.Framework
import Artboard.Proofs.Branches
import Artboard.Proofs.NeatCode
import Artboard.Proofs.Outline

/-!
# Nested code

Tall calls and lists shift each of their members by two, and what is nested deeper is shifted again
and again. The lines of a member end up where they were if its code had been shifted once, by the
number of calls and lists around it.
-/

open List

namespace Artboard

/-! ## Shifted lines in a text -/

/-- Lines of a text that stand in another one, shifted, with a comma and something else behind. -/
def StandsShifted (m : String) (n : Nat) (s : String) : Prop :=
  ∃ before behind, behind ≠ "" ∧ s = before ++ "\n" ++ indentLines m n ++ ",\n" ++ behind

section
variable {m s t : String} {a b : Nat}

theorem StandsShifted.between (h : StandsShifted m a s) (before behind : String) :
    StandsShifted m a (before ++ s ++ behind) := by
  obtain ⟨u, v, hv, rfl⟩ := h
  refine ⟨before ++ u, v ++ behind, ?_, ?_⟩
  · simp [hv]
  · simp only [String.append_assoc]

theorem indentLines_between {before behind : String} (hm : Lines.IsNeat m.toList)
    (hbehind : behind ≠ "") (hs : s = before ++ "\n" ++ indentLines m a ++ ",\n" ++ behind) :
    indentLines s b = indentLines (before ++ "\n") b ++ "\n" ++ indentLines m (a + b) ++ ",\n" ++
      indentLines behind b := by
  have hne : behind.toList ≠ [] := fun h => hbehind (String.toList_eq_nil_iff.mp h)
  have hbetween := Lines.indent_between hm a b before.toList hne
  apply String.toList_inj.mp
  simpa [indentLines, hs] using hbetween

/-- **What stands shifted in a text that stands shifted is shifted once, by both distances.** -/
theorem StandsShifted.trans (hm : Lines.IsNeat m.toList) (h : StandsShifted m a s)
    (hs : StandsShifted s b t) : StandsShifted m (a + b) t := by
  obtain ⟨u, v, hv, hsplit⟩ := h
  obtain ⟨before, behind, hbehind, rfl⟩ := hs
  rw [indentLines_between hm hv hsplit]
  refine ⟨before ++ "\n" ++ indentLines (u ++ "\n") b, indentLines v b ++ ",\n" ++ behind, ?_, ?_⟩
  · simp [hbehind]
  · simp only [String.append_assoc]

theorem StandsShifted.hang (hm : Lines.IsNeat m.toList) (h : StandsShifted m a s) (before : String)
    {behind : String} (hbehind : behind ≠ "") :
    StandsShifted m (a + b) (before ++ hangLines s b ++ behind) := by
  obtain ⟨u, v, hv, rfl⟩ := h
  obtain ⟨first, rest, hhang⟩ := Lines.exists_hang_append_feed b u.toList
    (t := (indentLines m a ++ ",\n" ++ v).toList) (by simp)
  have hhung : hangLines (u ++ "\n" ++ indentLines m a ++ ",\n" ++ v) b = String.ofList first ++
      indentLines (String.ofList rest ++ "\n" ++ indentLines m a ++ ",\n" ++ v) b := by
    apply String.toList_inj.mp
    simpa [hangLines, indentLines] using hhang
  rw [hhung, indentLines_between hm hv rfl]
  refine ⟨before ++ String.ofList first ++ indentLines (String.ofList rest ++ "\n") b,
    indentLines v b ++ behind, ?_, ?_⟩
  · simp [hbehind]
  · simp only [String.append_assoc]

theorem StandsShifted.inLines (h : StandsShifted m a s) {ls : List String} (hs : s ∈ ls) :
    StandsShifted m a (String.join (ls.map (· ++ "\n"))) := by
  obtain ⟨us, vs, rfl⟩ := append_of_mem hs
  have hall := h.between (String.join (us.map (· ++ "\n")))
    ("\n" ++ String.join (vs.map (· ++ "\n")))
  simpa [String.append_assoc] using hall

end

/-! ## Members -/

namespace Expr

def members : Expr → List Argument
  | call true _ as => as
  | list true items => items.map fun e => ("", e)
  | _ => []

def code (l : Literals) (x : Argument) : String := labelled x.1 (x.2.text l)

/-- What is nested in an argument, by the number of tall calls and lists around it. -/
inductive Nests (x : Argument) : Nat → Argument → Prop
  | self : Nests x 0 x
  | member {n : Nat} {y z : Argument} (h : Nests x n y) (hz : z ∈ y.2.members) : Nests x (n + 1) z

theorem Nests.trans {x y z : Argument} {m n : Nat} (h : Nests x m y) (hz : Nests y n z) :
    Nests x (m + n) z := by
  induction hz with
  | self => exact h
  | member _ hz ih => exact ih.member hz

/-! ## Places of members -/

theorem arrange_of_ne_nil {ms : List String} (h : ms ≠ []) :
    arrange true ms = "\n" ++ String.join (ms.map fun m => indentLines m 2 ++ ",\n") := by
  cases ms with
  | nil => exact absurd rfl h
  | cons m ms => rfl

theorem exists_arrange_append_cons (us : List String) (m : String) (vs : List String) :
    ∃ before behind, arrange true (us ++ m :: vs) =
      before ++ "\n" ++ indentLines m 2 ++ ",\n" ++ behind := by
  have harrange := arrange_of_ne_nil (append_ne_nil_of_right_ne_nil us (cons_ne_nil m vs))
  rw [harrange, map_append, map_cons, String.join_append, String.join_cons]
  -- the line feed in front is the opening one, or it ends the member before
  obtain ⟨before, hbefore⟩ : ∃ before, "\n" ++ String.join (us.map fun m =>
      indentLines m 2 ++ ",\n") = before ++ "\n" := by
    rcases eq_nil_or_concat us with rfl | ⟨us, u, rfl⟩
    · exact ⟨"", rfl⟩
    · refine ⟨"\n" ++ String.join (us.map fun m => indentLines m 2 ++ ",\n") ++
        indentLines u 2 ++ ",", ?_⟩
      simp [String.append_assoc]
  refine ⟨before, String.join (vs.map fun m => indentLines m 2 ++ ",\n"), ?_⟩
  rw [← String.append_assoc, hbefore]
  simp only [String.append_assoc]

theorem standsShifted_arrange {m : String} {ms : List String} (h : m ∈ ms) (opening : String)
    {closing : String} (hclosing : closing ≠ "") :
    StandsShifted m 2 (opening ++ arrange true ms ++ closing) := by
  obtain ⟨us, vs, rfl⟩ := append_of_mem h
  obtain ⟨before, behind, harrange⟩ := exists_arrange_append_cons us m vs
  rw [harrange]
  refine ⟨opening ++ before, behind ++ closing, ?_, ?_⟩
  · simp [hclosing]
  · simp only [String.append_assoc]

def IsTerseArgument (x : Argument) : Prop := HasPlainBlanks x.1 ∧ x.2.IsTerse

theorem isTerseArgument_member {e : Expr} (h : e.IsTerse) {x : Argument} (hx : x ∈ e.members) :
    IsTerseArgument x := by
  cases e with
  | call tall name as =>
    cases tall with
    | false => cases hx
    | true => exact areTerseArguments_iff.mp h.2 x hx
  | list tall items =>
    cases tall with
    | false => cases hx
    | true =>
      obtain ⟨e, he, rfl⟩ := mem_map.mp hx
      exact ⟨(by decide : HasPlainBlanks ""), areTerse_iff.mp h e he⟩
  | _ => cases hx

theorem Nests.isTerseArgument {x y : Argument} {n : Nat} (h : Nests x n y)
    (hx : IsTerseArgument x) : IsTerseArgument y := by
  induction h with
  | self => exact hx
  | member _ hz ih => exact isTerseArgument_member ih.2 hz

section
variable (l : Literals)

theorem argumentTexts_eq_map : ∀ as : List Argument, argumentTexts l as = as.map (code l)
  | [] => rfl
  | (_, _) :: as => congrArg (_ :: ·) (argumentTexts_eq_map as)

theorem texts_eq_map : ∀ es : List Expr, texts l es = es.map (text l)
  | [] => rfl
  | _ :: es => congrArg (_ :: ·) (texts_eq_map es)

theorem code_unlabelled (e : Expr) : code l ("", e) = e.text l := rfl

theorem exists_code_eq (x : Argument) : ∃ label, code l x = label ++ x.2.text l := by
  unfold code labelled
  split
  · exact ⟨"", (String.empty_append).symm⟩
  · exact ⟨_, rfl⟩

theorem standsShifted_member {x y : Argument} (h : y ∈ x.2.members) :
    StandsShifted (code l y) 2 (code l x) := by
  obtain ⟨label, hcode⟩ := exists_code_eq l x
  obtain ⟨_, e⟩ := x
  rw [hcode]
  cases e with
  | call tall name as =>
    cases tall with
    | false => cases h
    | true =>
      have hy : code l y ∈ as.map (code l) := mem_map_of_mem h
      have hm := standsShifted_arrange hy (label ++ name ++ "(") (by decide : ")" ≠ "")
      simpa only [text, argumentTexts_eq_map, String.append_assoc] using hm
  | list tall items =>
    cases tall with
    | false => cases h
    | true =>
      obtain ⟨e, he, rfl⟩ := mem_map.mp h
      rw [code_unlabelled]
      have hm := standsShifted_arrange (mem_map_of_mem (f := text l) he) (label ++ "[")
        (by decide : "]" ≠ "")
      simpa only [text, texts_eq_map, String.append_assoc] using hm
  | _ => cases h

variable {l} (hl : ∀ s, Lines.IsNeat (l.quote s).toList)
include hl

theorem IsTerseArgument.isNeat_code {x : Argument} (h : IsTerseArgument x) :
    Lines.IsNeat (code l x).toList :=
  isNeat_labelled h.1 (isNeat_text hl h.2)

/-- **What is nested stands where it was if its code had been shifted once,** by two for each call
and list around it. -/
theorem Nests.standsShifted {x : Argument} (hx : IsTerseArgument x) : ∀ {n : Nat} {y : Argument},
    Nests x (n + 1) y → StandsShifted (code l y) (2 * (n + 1)) (code l x)
  | 0, _, .member h hy => by
    cases h
    exact standsShifted_member l hy
  | n + 1, _, .member h hy => by
    -- what is around it is nested less deep, and stands shifted already
    have hneat := (isTerseArgument_member (h.isTerseArgument hx).2 hy).isNeat_code hl
    have htrans := (standsShifted_member l hy).trans hneat (Nests.standsShifted hx h)
    rwa [Nat.add_comm] at htrans

end

end Expr

/-! ## Nested widgets -/

inductive Branch.Shows {α : Type} (bs : List (Branch α)) : Branch α → Prop
  | top {b : Branch α} (hb : b ∈ bs) : Shows bs b
  | child {site : Site α} {children : List (Branch α)} {b : Branch α}
      (h : Shows bs (.node site children)) (hparent : site.element.kind.isParent = true)
      (hb : b ∈ children) : Shows bs b

namespace Flutter

open Artboard.Expr

def Houses (w x : Expr) : Prop := ∃ n, ∀ label, Nests (label, w) (n + 1) ("", x)

theorem houses_wrap {name : String} {as : List Argument} {w x : Expr} (h : Houses w x) :
    Houses (wrap name as w) x := by
  obtain ⟨n, h⟩ := h
  refine ⟨1 + n, fun label => ?_⟩
  have hchild : Nests (label, wrap name as w) 1 ("child", w) :=
    .member .self (mem_append_right as mem_cons_self)
  exact hchild.trans (h "child")

theorem nests_listing {label name : String} {as : List Argument} {ws : List Expr} {x : Expr}
    (hws : ("children", .list true ws) ∈ as) (hx : x ∈ ws) :
    Nests (label, tall name as) 2 ("", x) := by
  have hchildren : Nests (label, tall name as) 1 ("children", .list true ws) := .member .self hws
  exact hchildren.member (mem_map_of_mem hx)

theorem houses_listing {name : String} {as : List Argument} {ws : List Expr} {x : Expr}
    (hx : x ∈ ws) : Houses (tall name (as ++ [("children", .list true ws)])) x :=
  ⟨1, fun _ => nests_listing (mem_append_right as mem_cons_self) hx⟩

theorem mem_intersperse {gap x : Expr} : ∀ {ws : List Expr}, x ∈ ws → x ∈ ws.intersperse gap
  | [], h => h
  | [_], h => h
  | w :: v :: ws, h => by
    rcases mem_cons.mp h with rfl | h
    · exact mem_cons_self
    · exact mem_cons_of_mem _ (mem_cons_of_mem _ (mem_intersperse h))

section
variable (site : Site Float)

theorem houses_arranged {ws : List Expr} {x : Expr} (hx : x ∈ ws) :
    Houses (arranged site ws) x := by
  have hspaced : ∀ main l, x ∈ spaced main l ws := by
    intro main l
    unfold spaced
    split
    · exact mem_intersperse hx
    · exact hx
  unfold arranged
  split
  · exact houses_listing hx
  · split
    · exact houses_listing hx
    · exact houses_listing (hspaced _ _)

theorem houses_wrapped {w x : Expr} (h : Houses w x) : Houses (wrapped site (some w)) x := by
  have hboxed := boxed_induction (P := fun w => Houses w x) site (fun _ => houses_wrap) h
  have hdressed := dressed_induction (P := fun w => Houses w x) site (fun _ => houses_wrap) hboxed
  rw [wrapped_eq]
  unfold placed
  simp only
  split
  · exact houses_wrap hdressed
  · split
    · exact houses_wrap hdressed
    · exact hdressed

end

theorem widgets_eq_map (c : Context) (bs : List (Branch Float)) :
    widgets c bs = bs.map (widget c) := by
  induction bs with
  | nil => rfl
  | cons b bs ih => rw [widgets, ih, map_cons]

theorem mem_widgets (c : Context) {b : Branch Float} {bs : List (Branch Float)} (hb : b ∈ bs) :
    widget c b ∈ widgets c bs := by
  rw [widgets_eq_map]
  exact mem_map_of_mem hb

theorem houses_widget (c : Context) {site : Site Float} {children : List (Branch Float)}
    (hparent : site.element.kind.isParent = true) {b : Branch Float} (hb : b ∈ children) :
    Houses (widget c (.node site children)) (widget c b) := by
  have hwidget : widget c (.node site children) =
      wrapped site (some (arranged site (widgets c children))) := by
    rw [widget]
    cases hk : site.element.kind with
    | container l => rfl
    | group => rfl
    | _ => simp [hk, Kind.isParent] at hparent
  rw [hwidget]
  exact houses_wrapped site (houses_arranged site (mem_widgets c hb))

theorem exists_nests_of_shows (c : Context) {bs : List (Branch Float)} {b : Branch Float}
    (h : Branch.Shows bs b) : ∃ n, Nests ("", single (widgets c bs)) n ("", widget c b) := by
  induction h with
  | top hb =>
    have hw := mem_widgets c hb
    unfold single
    split
    · rename_i w hws
      rw [hws, mem_singleton] at hw
      exact ⟨0, hw ▸ .self⟩
    · exact ⟨2, nests_listing (mem_cons_of_mem _ (mem_cons_of_mem _ mem_cons_self)) hw⟩
  | child _ hparent hb ih =>
    obtain ⟨n, hn⟩ := ih
    obtain ⟨k, hk⟩ := houses_widget c hparent hb
    exact ⟨n + (k + 1), hn.trans (hk "")⟩

theorem standsShifted_widgetFile {m body : String} {a : Nat} (hm : Lines.IsNeat m.toList)
    (h : StandsShifted m a body) (name : String) :
    StandsShifted m (a + 4) (Framework.widgetFile name body) := by
  have hreturn := h.hang (b := 4) hm "    return " (by decide : ";" ≠ "")
  exact hreturn.inLines (by simp)

/-- **Nested code is shifted once.** Shifting lines twice is shifting them by both distances, unless
the text has carriage returns or ends in a blank line. The widget of every branch is nested in the
one widget that is written, and what is nested in it stands, by itself and in its file, as if its
own code had been shifted once. -/
theorem nested_shiftsOnce :
    (∀ s : String, '\r' ∉ s.toList →
      (∀ l ∈ (Lines.split s.toList).getLast?, l.all isBlankChar = false) →
        ∀ a b, indentLines (indentLines s a) b = indentLines s (a + b)) ∧
    ∀ (c : Context) (bs : List (Branch Float)),
      (∀ b, Branch.Shows bs b → ∃ n, Nests ("", single (widgets c bs)) n ("", widget c b)) ∧
      ∀ n x, Nests ("", single (widgets c bs)) (n + 1) x →
        StandsShifted (code literals x) (2 * (n + 1)) (Framework.code c bs .flutter) ∧
        ∀ name, StandsShifted (code literals x) (2 * (n + 1) + 4)
          (Framework.file name (Framework.code c bs .flutter) .flutter) := by
  refine ⟨fun s hreturn hlast a b => ?_, fun c bs => ⟨fun b hb => ?_, fun n x hx => ?_⟩⟩
  · have hsteady := Lines.areSteady_of_return_notMem hreturn hlast
    simp only [indentLines, String.toList_ofList, Lines.indent_indent hsteady]
  · exact exists_nests_of_shows c hb
  · have hterse : IsTerseArgument ("", single (widgets c bs)) :=
      ⟨(by decide : HasPlainBlanks ""), isTerse_single (areTerse_widgets c bs)⟩
    have hneat := (hx.isTerseArgument hterse).isNeat_code isNeat_quote
    have hshifted := hx.standsShifted isNeat_quote hterse
    exact ⟨hshifted, standsShifted_widgetFile hneat hshifted⟩

theorem toolbar_shiftsOnce :
    indentLines (indentLines "Row(\n\n)" 2) 4 = indentLines "Row(\n\n)" 6 ∧
    ∃ (a : Arena Float) (bs : List (Branch Float)) (as : List Argument),
      (normalizeInto default .empty toolbar).1 = .ok a ∧ a.branches = .ok bs ∧
      Nests ("", single (widgets .empty bs)) 3 ("", tall "Expanded" as) ∧
      StandsShifted (code literals ("", tall "Expanded" as)) 6
        (Framework.code .empty bs .flutter) := by
  refine ⟨nested_shiftsOnce.1 "Row(\n\n)" (by decide) (by decide) 2 4, ?_⟩
  have hbranches := (Arena.restructure_holds default (HostNode.toSources toolbar)).branches_eq
  obtain ⟨x, y, z, as, hshape⟩ : ∃ x y z as, single (widgets .empty (Scene.branches none
      (Source.buildAll default none (HostNode.toSources toolbar) ⟨0, []⟩).1)) =
        tall "SizedBox" [("width", x), ("height", y), ("child", tall "Row"
          [("crossAxisAlignment", z), ("children", .list true [tall "Expanded" as])])] :=
    ⟨_, _, _, _, rfl⟩
  have hrow : Nests ("child", tall "Row" [("crossAxisAlignment", z),
      ("children", .list true [tall "Expanded" as])]) 2 ("", tall "Expanded" as) :=
    nests_listing (mem_cons_of_mem _ mem_cons_self) mem_cons_self
  have hitem := Nests.trans (.member (.self (x := ("", tall "SizedBox" [("width", x),
    ("height", y), _]))) (mem_cons_of_mem _ (mem_cons_of_mem _ mem_cons_self))) hrow
  rw [← hshape] at hitem
  exact ⟨_, _, as, rfl, hbranches, hitem, ((nested_shiftsOnce.2 .empty _).2 2 _ hitem).1⟩

end Flutter

end Artboard
