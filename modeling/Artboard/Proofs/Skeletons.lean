import Artboard.Proofs.Classes
import Artboard.Proofs.Fills
import Artboard.Proofs.Tags
import Artboard.Proofs.Writers

/-!
# Skeletons of documents

What the host writes into names and texts cannot change the tags of a document: they depend on the
shape of the tree, on the kinds and on how many runs a text has. The one way in is a family of fonts
with a quote of its own, which closes the attribute it stands in.
-/

open List

namespace Artboard

/-- A tree without anything that the host has written. -/
inductive Skeleton
  | text (runs : Nat)
  | leaf
  | box (children : List Skeleton)

namespace Skeleton

def textTags (attr : String) (runs : Nat) : List MarkupTag :=
  .opening "p" ["data-name", attr] ::
    ((if runs ≤ 1 then []
      else (replicate runs [.opening "span" [attr], .closing "span"]).flatten) ++ [.closing "p"])

mutual

def tags (attr : String) : Skeleton → List MarkupTag
  | text runs => textTags attr runs
  | leaf => [.opening "div" ["data-name", attr], .closing "div"]
  | box children =>
    .opening "div" ["data-name", attr] :: (tagsOfAll attr children ++ [.closing "div"])

def tagsOfAll (attr : String) : List Skeleton → List MarkupTag
  | [] => []
  | s :: rest => tags attr s ++ tagsOfAll attr rest

end

end Skeleton

namespace Branch

mutual

def skeleton (c : Context) : Branch Float → Skeleton
  | node site children =>
    match site.element.kind with
    | .text _ => .text (site.element.textRuns c).length
    | .container _ | .group => .box (skeletons c children)
    | _ => .leaf

def skeletons (c : Context) : List (Branch Float) → List Skeleton
  | [] => []
  | b :: rest => skeleton c b :: skeletons c rest

end

mutual

def runs (c : Context) : Branch Float → List TextRun
  | node site children =>
    match site.element.kind with
    | .text _ => site.element.textRuns c
    | .container _ | .group => runsOfAll c children
    | _ => []

def runsOfAll (c : Context) : List (Branch Float) → List TextRun
  | [] => []
  | b :: rest => runs c b ++ runsOfAll c rest

end

end Branch

/-! ## Documents of a format -/

namespace Markup.Styling

/-- A format that writes nothing that would close an attribute, families of fonts apart. -/
structure IsSound (s : Styling) : Prop where
  isName : Reader.IsName s.attributeName
  separator : Quotable s.separator
  node : ∀ site, ∀ k ∈ s.node site, Quotable k
  text : ∀ t, ∀ k ∈ s.text t, Quotable k
  run : ∀ r : TextRun, Quotable r.font.family → ∀ k ∈ s.run r, Quotable k

namespace IsSound

variable {s : Styling} (hs : s.IsSound) {c : Context} {site : Site Float}
include hs

theorem style {pieces : List String} (h : ∀ k ∈ pieces, Quotable k) :
    AreSound [s.style pieces] := by
  intro a ha
  rw [mem_singleton.mp ha]
  exact ⟨hs.isName, quotable_intercalate hs.separator h⟩

theorem heading (h : ∀ k ∈ s.pieces c site, Quotable k) : AreSound (s.heading c site) := by
  intro a ha
  rcases mem_pair.mp ha with rfl | rfl
  · exact ⟨(by decide : Reader.IsName "data-name"), quotable_markup _⟩
  · exact hs.style h _ mem_cons_self

theorem pieces_of_text {t : TextContent} (hk : site.element.kind = .text t)
    (h : ∀ r ∈ site.element.textRuns c, Quotable r.font.family) :
    ∀ k ∈ s.pieces c site, Quotable k := by
  rw [s.pieces_of_text c hk]
  simp only [forall_mem_append]
  refine ⟨hs.node site, hs.text t, ?_⟩
  unfold single
  split
  · rename_i r hruns
    exact hs.run r (h r (by rw [hruns]; exact mem_cons_self))
  · simp

theorem inlines {runs : List TextRun} (t : TextContent)
    (h : ∀ r ∈ runs, Quotable r.font.family) : ∀ x ∈ s.inlines runs t, IsInline x := by
  unfold Styling.inlines
  split
  · simp [IsInline]
  · simp [IsInline]
  · intro x hx
    obtain ⟨r, hr, rfl⟩ := mem_map.mp hx
    exact ⟨hs.style (hs.run r (h r hr)), _, rfl⟩

theorem pieces_of_content?_eq_none (h : site.element.kind.content? = none) :
    ∀ k ∈ s.pieces c site, Quotable k := by
  rw [s.pieces_of_content?_eq_none c h]
  exact hs.node site

end IsSound

variable {s : Styling} {c : Context}

mutual

theorem isSound_document (hs : s.IsSound) : ∀ (b : Branch Float),
    (∀ r ∈ b.runs c, Quotable r.font.family) → Markup.IsSound (s.document c b)
  | .node site children, h => by
    rw [Branch.runs] at h
    cases hk : site.element.kind with
    | text t =>
      simp only [hk] at h
      rw [s.document_of_text c children hk]
      exact ⟨hs.heading (hs.pieces_of_text hk h), hs.inlines t h⟩
    | container l =>
      simp only [hk] at h
      rw [s.document_of_isParent c children (by rw [hk]; rfl)]
      exact ⟨hs.heading (hs.pieces_of_content?_eq_none (by rw [hk]; rfl)),
        areAllSound_documents hs children h⟩
    | group =>
      simp only [hk] at h
      rw [s.document_of_isParent c children (by rw [hk]; rfl)]
      exact ⟨hs.heading (hs.pieces_of_content?_eq_none (by rw [hk]; rfl)),
        areAllSound_documents hs children h⟩
    | _ =>
      rw [s.document_of_leaf c children (by rw [hk]; rfl) (by rw [hk]; rfl)]
      exact hs.heading (hs.pieces_of_content?_eq_none (by rw [hk]; rfl))

theorem areAllSound_documents (hs : s.IsSound) : ∀ (bs : List (Branch Float)),
    (∀ r ∈ Branch.runsOfAll c bs, Quotable r.font.family) → AreAllSound (s.documents c bs)
  | [], _ => trivial
  | b :: bs, h => by
    rw [Branch.runsOfAll, forall_mem_append] at h
    exact ⟨isSound_document hs b h.1, areAllSound_documents hs bs h.2⟩

end

/-! ## Tags of a format -/

section
variable (s c)

theorem flatMap_inlineTags (runs : List TextRun) (t : TextContent) :
    (s.inlines runs t).flatMap inlineTags =
      if runs.length ≤ 1 then []
      else
        (replicate runs.length [.opening "span" [s.attributeName], .closing "span"]).flatten := by
  -- two runs or more are spans, one after the other
  have hspans : ∀ rs : List TextRun,
      (rs.map fun r => Inline.span (s.style (s.run r)) (Escape.markup r.characters)).flatMap
        inlineTags =
      (replicate rs.length [.opening "span" [s.attributeName], .closing "span"]).flatten := by
    intro rs
    induction rs with
    | nil => rfl
    | cons r rs ih =>
      rw [map_cons, flatMap_cons, ih, length_cons, replicate_succ, flatten_cons]
      rfl
  unfold inlines
  split
  · rfl
  · rfl
  · rename_i hne hsingle
    have hlength : ¬runs.length ≤ 1 := by
      match runs, hne, hsingle with
      | [], hne, _ => exact absurd rfl hne
      | [r], _, hsingle => exact absurd rfl (hsingle r)
      | _ :: _ :: _, _, _ => simp
    rw [if_neg hlength, hspans]

mutual

theorem tags_document : ∀ (b : Branch Float),
    (s.document c b).tags = (b.skeleton c).tags s.attributeName
  | .node site children => by
    rw [Branch.skeleton]
    cases hk : site.element.kind with
    | text t =>
      rw [s.document_of_text c children hk, tags, flatMap_inlineTags]
      rfl
    | container l =>
      rw [s.document_of_isParent c children (by rw [hk]; rfl), tags, tagsOfAll_documents children]
      rfl
    | group =>
      rw [s.document_of_isParent c children (by rw [hk]; rfl), tags, tagsOfAll_documents children]
      rfl
    | _ =>
      rw [s.document_of_leaf c children (by rw [hk]; rfl) (by rw [hk]; rfl)]
      rfl

theorem tagsOfAll_documents : ∀ (bs : List (Branch Float)),
    tagsOfAll (s.documents c bs) = Skeleton.tagsOfAll s.attributeName (Branch.skeletons c bs)
  | [] => rfl
  | b :: bs => by
    rw [documents, tagsOfAll, tags_document b, tagsOfAll_documents bs, Branch.skeletons,
      Skeleton.tagsOfAll]

end

end

theorem IsSound.readTags_body (hs : s.IsSound) {bs : List (Branch Float)}
    (h : ∀ r ∈ Branch.runsOfAll c bs, Quotable r.font.family) :
    readTags (s.body c bs) =
      some (Skeleton.tagsOfAll s.attributeName (Branch.skeletons c bs)) := by
  rw [← tagsOfAll_documents]
  exact readTags_lines 0 (areAllSound_documents hs bs h)

end Markup.Styling

theorem Html.isSound : Html.styling.IsSound where
  isName := by decide
  separator := by decide
  node site := forall_mem_map.mpr (quotable_declarations site)
  text t := forall_mem_map.mpr (quotable_textDeclarations t)
  run _ h := forall_mem_map.mpr (quotable_runDeclarations h)

theorem Tailwind.isSound : Tailwind.styling.IsSound where
  isName := by decide
  separator := by decide
  node := quotable_classes
  text t := by
    have halign : ∀ x, ∀ k ∈ textAlign x, Quotable k := by
      intro x
      cases x <;> decide
    exact halign t.alignHorizontal
  run _ := quotable_runClasses

/-- **Names and texts cannot change the tags of a document,** nor can families of fonts that have no
quote of their own. -/
theorem normalize_readTags (o : NormalizeOptions Float) (c : Context)
    (selection : List (HostNode Float)) {a : Arena Float}
    (h : (normalizeInto o c selection).1 = .ok a) (d : Context) :
    ∃ bs, a.branches = .ok bs ∧ ((∀ r ∈ Branch.runsOfAll d bs, Quotable r.font.family) →
      readTags (Framework.code d bs .html) =
        some (Skeleton.tagsOfAll "style" (Branch.skeletons d bs)) ∧
      readTags (Framework.code d bs .tailwind) =
        some (Skeleton.tagsOfAll "class" (Branch.skeletons d bs))) := by
  obtain ⟨_, rfl⟩ := normalizeSources_eq_ok_iff.mp h
  refine ⟨_, (Arena.restructure_holds o _).branches_eq, ?_⟩
  intro hfamilies
  constructor
  · rw [Framework.code, Html.body_eq]
    exact Html.isSound.readTags_body hfamilies
  · rw [Framework.code, Tailwind.body_eq]
    exact Tailwind.isSound.readTags_body hfamilies

def sign (family : String) : List (HostNode Float) :=
  [.node { HostProps.plain "1" "sign" .text ⟨0, 0, 40, 20, 0⟩ with
    characters := some "Open", font := .known ⟨family, "Regular"⟩ } []]

theorem sign_readTags : ∃ (a : Arena Float) (bs : List (Branch Float)),
    (normalizeInto default .empty (sign "Inter")).1 = .ok a ∧ a.branches = .ok bs ∧
      readTags (Framework.code .empty bs .html) =
        some [.opening "p" ["data-name", "style"], .closing "p"] ∧
      readTags (Framework.code .empty bs .tailwind) =
        some [.opening "p" ["data-name", "class"], .closing "p"] := by
  have hholds := Arena.restructure_holds default (HostNode.toSources (sign "Inter"))
  obtain ⟨bs, hbs, htags⟩ := normalize_readTags default .empty (sign "Inter") rfl .empty
  cases hbs.symm.trans hholds.branches_eq
  have hfamilies : ∀ r ∈ Branch.runsOfAll .empty (Scene.branches none
      (Source.buildAll default none (HostNode.toSources (sign "Inter")) ⟨0, []⟩).1),
      Quotable r.font.family := by
    intro r hr
    rw [mem_singleton.mp hr]
    exact (by decide : Quotable "Inter")
  exact ⟨_, _, rfl, hbs, htags hfamilies⟩

/-! ## Families with quotes -/

theorem exists_intercalate {sep : String} (hsep : Quotable sep) {before behind : List String}
    (hbefore : ∀ t ∈ before, Quotable t) (hbehind : ∀ t ∈ behind, Quotable t) (x y z : String)
    (hx : Quotable x) (hz : Quotable z) : ∃ p q, Quotable p ∧ Quotable q ∧
      sep.intercalate (before ++ (x ++ y ++ z) :: behind) = p ++ y ++ q := by
  induction before with
  | nil =>
    cases behind with
    | nil => exact ⟨x, z, hx, hz, by simp⟩
    | cons t behind =>
      have hrest := quotable_intercalate hsep hbehind
      refine ⟨x, z ++ sep ++ sep.intercalate (t :: behind), hx, by simp [hz, hsep, hrest], ?_⟩
      rw [nil_append, String.intercalate_cons_cons]
      simp [String.append_assoc]
  | cons t before ih =>
    rw [forall_mem_cons] at hbefore
    obtain ⟨p, q, hp, hq, hall⟩ := ih hbefore.2
    refine ⟨t ++ sep ++ p, q, by simp [hbefore.1, hsep, hp], hq, ?_⟩
    rw [cons_append, String.intercalate_cons_of_ne_nil (by simp), hall]
    simp [String.append_assoc]

namespace Html

variable {c : Context} {site : Site Float} {t : TextContent} {r : TextRun}

theorem exists_style (hk : site.element.kind = .text t) (hr : site.element.textRuns c = [r]) :
    ∃ p q, Quotable p ∧ Quotable q ∧
      styling.style (styling.pieces c site) = ⟨"style", p ++ r.font.family ++ q⟩ := by
  -- the family is in the first declaration, and nowhere else
  have hrun : runDeclarations r = ⟨"font-family", "'" ++ r.font.family ++ "'"⟩ ::
      (runDeclarations { r with font.family := "" }).tail := rfl
  have hhead : (⟨"font-family", "'" ++ r.font.family ++ "'"⟩ : Declaration).text =
      "font-family: '" ++ r.font.family ++ "'" := by
    apply String.toList_injective
    simp [Declaration.text]
  have hempty : Quotable "" := by decide
  have hbehind : ∀ k ∈ (runDeclarations { r with font.family := "" }).tail.map Declaration.text,
      Quotable k :=
    forall_mem_map.mpr fun d hd => quotable_runDeclarations hempty d (mem_of_mem_tail hd)
  have hbefore := forall_mem_append.mpr ⟨forall_mem_map.mpr (quotable_declarations site),
    forall_mem_map.mpr (quotable_textDeclarations t)⟩
  obtain ⟨p, q, hp, hq, hall⟩ := exists_intercalate isSound.separator hbefore hbehind
    "font-family: '" r.font.family "'" (by decide) (by decide)
  refine ⟨p, q, hp, hq, ?_⟩
  rw [styling.pieces_of_text c hk, hr, ← append_assoc, ← hall, ← hhead, ← map_cons, ← hrun]
  rfl

/-- A quote in the family of a text's only run can bring an attribute of any name. -/
theorem readTags_of_quoted {u v n : String} (hk : site.element.kind = .text t)
    (hr : site.element.textRuns c = [r]) (hn : Reader.IsName n) (hu : Quotable u)
    (hv : Quotable v) (hfamily : r.font.family = u ++ "\" " ++ n ++ "=\"" ++ v)
    (children : List (Branch Float)) : readTags (styling.body c [.node site children]) =
      some [.opening "p" ["data-name", "style", n], .closing "p"] := by
  obtain ⟨p, q, hp, hq, hstyle⟩ := exists_style hk hr
  have hdocument : styling.document c (.node site children) =
      .paragraph [Markup.Styling.name site.element, ⟨"style", p ++ r.font.family ++ q⟩]
        [.plain (Escape.markup r.characters)] := by
    rw [styling.document_of_text c children hk, hr, Markup.Styling.heading, hstyle]
    rfl
  -- the same tag is that of a paragraph with one attribute more
  have htag : Markup.tag "p"
      [Markup.Styling.name site.element, ⟨"style", p ++ r.font.family ++ q⟩] =
      Markup.tag "p" [Markup.Styling.name site.element, ⟨"style", p ++ u⟩, ⟨n, v ++ q⟩] := by
    apply String.toList_injective
    simp [Markup.tag, Markup.Attribute.text, hfamily]
  have hsound : Markup.AreAllSound [.paragraph
      [Markup.Styling.name site.element, ⟨"style", p ++ u⟩, ⟨n, v ++ q⟩]
      [.plain (Escape.markup r.characters)]] := by
    refine ⟨⟨?_, ?_⟩, trivial⟩
    · simp [Markup.AreSound, Markup.Styling.name, hp, hu, hv, hq, hn,
        (by decide : Reader.IsName "data-name"), (by decide : Reader.IsName "style")]
    · simp [Markup.IsInline]
  have htags := Markup.readTags_lines 0 hsound
  rw [Markup.linesOfAll, Markup.lines, ← htag] at htags
  rw [Markup.Styling.body, Markup.Styling.documents, hdocument]
  exact htags

end Html

theorem sign_not_readTags : ∃ (a : Arena Float) (bs : List (Branch Float)),
    (normalizeInto default .empty (sign "A\" onclick=\"x")).1 = .ok a ∧ a.branches = .ok bs ∧
      Branch.skeletons .empty bs = [.text 1] ∧
      readTags (Framework.code .empty bs .html) =
        some [.opening "p" ["data-name", "style", "onclick"], .closing "p"] := by
  have hholds := Arena.restructure_holds default (HostNode.toSources (sign "A\" onclick=\"x"))
  refine ⟨_, _, rfl, hholds.branches_eq, rfl, ?_⟩
  rw [Framework.code, Html.body_eq]
  exact Html.readTags_of_quoted (u := "A") (v := "x") (n := "onclick") rfl rfl (by decide)
    (by decide) (by decide) rfl _

end Artboard
