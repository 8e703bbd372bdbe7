import Artboard.Proofs.Skeletons

/-!
# Lists of classes

The styles of a document, tag by tag, with what is joined in each of them. A list of classes is read
back from the attribute it was joined in, be it split at plain blanks or at any white space, exactly
if no family of a font brings white space of another kind.
-/

open List

namespace Artboard

/-! ## Joined words -/

def splitWhere (p : Char → Bool) (s : String) : List String :=
  (s.toList.splitOnP p).map String.ofList

/-- Words that a text is split into, wherever white space may end them. -/
structure SplitsInto (s : String) (words : List String) : Prop where
  isWord : ∀ w ∈ words, IsWord w
  atPlainBlanks : splitWhere (· == ' ') s = words
  atBlanks : splitWhere isBlankChar s = words

theorem splitWhere_intercalate {p : Char → Bool} (hp : p ' ' = true) : ∀ {words : List String},
    words ≠ [] → (∀ w ∈ words, ∀ c ∈ w.toList, p c = false) →
      splitWhere p (" ".intercalate words) = words
  | [], hne, _ => absurd rfl hne
  | [w], _, h => by simp [splitWhere, splitOnP_eq_singleton (h w mem_cons_self)]
  | w :: v :: words, _, h => by
    rw [forall_mem_cons] at h
    have ih := splitWhere_intercalate hp (cons_ne_nil v words) h.2
    have hjoined : (" ".intercalate (w :: v :: words)).toList =
        w.toList ++ ' ' :: (" ".intercalate (v :: words)).toList := by
      simp [String.intercalate_cons_cons]
    unfold splitWhere at ih ⊢
    rw [hjoined, splitOnP_append_cons_of_forall_mem h.1 ' ' hp, map_cons, ih, String.ofList_toList]

theorem splitsInto_intercalate_iff {words : List String} :
    SplitsInto (" ".intercalate words) words ↔ words ≠ [] ∧ ∀ w ∈ words, IsWord w := by
  constructor
  · intro h
    refine ⟨?_, h.isWord⟩
    rintro rfl
    have hnone := h.atBlanks
    simp [splitWhere] at hnone
  · intro ⟨hne, h⟩
    refine ⟨h, splitWhere_intercalate rfl hne fun w hw c hc => ?_,
      splitWhere_intercalate rfl hne fun w hw => (h w hw).isSolid⟩
    have hblank := (h w hw).isSolid c hc
    rw [beq_eq_false_iff_ne]
    rintro rfl
    cases hblank

/-! ## Styles of a document -/

def Inline.attributes : Inline → List Attribute
  | .plain _ => []
  | .span style _ => [style]

namespace Markup

mutual

def written : Markup → List Attribute
  | paragraph as content => as ++ content.flatMap Inline.attributes
  | leaf as => as
  | box as children => as ++ writtenOfAll children

def writtenOfAll : List Markup → List Attribute
  | [] => []
  | m :: rest => written m ++ writtenOfAll rest

end

def valuesOf (name : String) (as : List Attribute) : List String :=
  (as.filter fun a => a.name == name).map Attribute.value

theorem valuesOf_append (name : String) (as bs : List Attribute) :
    valuesOf name (as ++ bs) = valuesOf name as ++ valuesOf name bs := by
  simp [valuesOf]

namespace Styling

variable (s : Styling) (c : Context)

def spanned : List TextRun → List (List String)
  | [] | [_] => []
  | rs => rs.map s.run

mutual

/-- What is joined in the styles of a branch, tag by tag. -/
def joined : Branch Float → List (List String)
  | .node site children =>
    s.pieces c site ::
      match site.element.kind with
      | .text _ => s.spanned (site.element.textRuns c)
      | .container _ | .group => joinedOfAll children
      | _ => []

def joinedOfAll : List (Branch Float) → List (List String)
  | [] => []
  | b :: rest => joined b ++ joinedOfAll rest

end

variable {s c}

theorem valuesOf_heading (hs : s.attributeName ≠ "data-name") (site : Site Float) :
    valuesOf s.attributeName (s.heading c site) = [s.separator.intercalate (s.pieces c site)] := by
  simp [valuesOf, heading, name, style, hs.symm]

theorem valuesOf_inlines (runs : List TextRun) (content : TextContent) :
    valuesOf s.attributeName ((s.inlines runs content).flatMap Inline.attributes) =
      (s.spanned runs).map s.separator.intercalate := by
  have hspans : ∀ rs : List TextRun, valuesOf s.attributeName
      ((rs.map fun r => Inline.span (s.style (s.run r)) (Escape.markup r.characters)).flatMap
        Inline.attributes) = (rs.map s.run).map s.separator.intercalate := by
    intro rs
    induction rs with
    | nil => rfl
    | cons r rs ih =>
      rw [map_cons, flatMap_cons, valuesOf_append, ih]
      simp [Inline.attributes, valuesOf, style]
  rcases runs with _ | ⟨r, _ | ⟨r', rs⟩⟩
  · rfl
  · rfl
  · exact hspans (r :: r' :: rs)

mutual

theorem valuesOf_document (hs : s.attributeName ≠ "data-name") : ∀ b : Branch Float,
    valuesOf s.attributeName (s.document c b).written =
      (s.joined c b).map s.separator.intercalate
  | .node site children => by
    rw [joined, map_cons]
    cases hk : site.element.kind with
    | text t =>
      rw [s.document_of_text c children hk, written, valuesOf_append, valuesOf_heading hs,
        valuesOf_inlines]
      rfl
    | container l =>
      rw [s.document_of_isParent c children (by rw [hk]; rfl), written, valuesOf_append,
        valuesOf_heading hs, valuesOf_documents hs children]
      rfl
    | group =>
      rw [s.document_of_isParent c children (by rw [hk]; rfl), written, valuesOf_append,
        valuesOf_heading hs, valuesOf_documents hs children]
      rfl
    | _ =>
      rw [s.document_of_leaf c children (by rw [hk]; rfl) (by rw [hk]; rfl), written,
        valuesOf_heading hs]
      rfl

theorem valuesOf_documents (hs : s.attributeName ≠ "data-name") : ∀ bs : List (Branch Float),
    valuesOf s.attributeName (writtenOfAll (s.documents c bs)) =
      (s.joinedOfAll c bs).map s.separator.intercalate
  | [] => rfl
  | b :: bs => by
    rw [documents, writtenOfAll, valuesOf_append, valuesOf_document hs b, valuesOf_documents hs bs,
      joinedOfAll, map_append]

end

end Styling

end Markup

/-! ## Classes -/

namespace Tailwind

theorem IsClass.isWord {s : String} (h : IsClass s) : IsWord s := ⟨h.ne_empty, h.isClassText.isSolid⟩

theorem isWord_familyClass_iff {r : TextRun} :
    IsWord (familyClass r) ↔ HasPlainBlanks r.font.family := by
  have hne : familyClass r ≠ "" := by
    intro h
    have hempty := congrArg String.toList h
    simp [familyClass, bracket] at hempty
  have hsolid : IsSolid (familyClass r) ↔ IsSolid (arbitrary r.font.family) := by
    simp +decide [familyClass, bracket]
  rw [← isSolid_arbitrary_iff, ← hsolid]
  exact ⟨IsWord.isSolid, fun h => ⟨hne, h⟩⟩

theorem isWord_runClasses_iff {r : TextRun} :
    (∀ k ∈ runClasses r, IsWord k) ↔ HasPlainBlanks r.font.family := by
  rw [runClasses_eq, forall_mem_cons, isWord_familyClass_iff]
  exact and_iff_left fun k hk => (isClass_look r k hk).isWord

theorem classes_ne_nil (site : Site Float) : classes site ≠ [] := by
  have hsizing : sizing site .horizontal ≠ [] := by
    unfold sizing
    split
    · simp
    · simp
    · split <;> simp
  simp [classes, hsizing]

def AreReadable (ls : List (List String)) : Prop := ∀ l ∈ ls, l ≠ [] ∧ ∀ k ∈ l, IsWord k

section
variable (c : Context)

theorem pieces_ne_nil (site : Site Float) : styling.pieces c site ≠ [] := by
  unfold Markup.Styling.pieces
  split
  · exact append_ne_nil_of_left_ne_nil (classes_ne_nil site) _
  · exact classes_ne_nil site

theorem areReadable_runs_iff (rs : List TextRun) :
    AreReadable (rs.map styling.run) ↔ ∀ r ∈ rs, HasPlainBlanks r.font.family := by
  have hrun : ∀ r, (runClasses r ≠ [] ∧ ∀ k ∈ runClasses r, IsWord k) ↔
      HasPlainBlanks r.font.family := by
    intro r
    rw [isWord_runClasses_iff]
    exact and_iff_right (by simp [runClasses_eq])
  simp only [AreReadable, forall_mem_map]
  exact forall₂_congr fun r _ => hrun r

variable {c} {site : Site Float}

theorem areReadable_pieces (h : site.element.kind.content? = none) :
    AreReadable [styling.pieces c site] := by
  rw [AreReadable, forall_mem_singleton]
  refine ⟨pieces_ne_nil c site, ?_⟩
  rw [styling.pieces_of_content?_eq_none c h]
  exact fun k hk => (isClass_classes site k hk).isWord

theorem areReadable_text_iff {t : TextContent} (hk : site.element.kind = .text t) :
    AreReadable (styling.pieces c site :: styling.spanned (site.element.textRuns c)) ↔
      ∀ r ∈ site.element.textRuns c, HasPlainBlanks r.font.family := by
  have hnode : ∀ k ∈ styling.node site, IsWord k := fun k hk => (isClass_classes site k hk).isWord
  have htext : ∀ k ∈ styling.text t, IsWord k := fun k hk => (isClass_textAlign _ k hk).isWord
  have hown : (∀ k ∈ styling.pieces c site, IsWord k) ↔
      ∀ k ∈ styling.single (site.element.textRuns c), IsWord k := by
    rw [styling.pieces_of_text c hk, forall_mem_append, forall_mem_append, and_iff_right hnode,
      and_iff_right htext]
  rw [AreReadable, forall_mem_cons, hown, and_iff_right (pieces_ne_nil c site)]
  match site.element.textRuns c with
  | [] => simp [Markup.Styling.single, Markup.Styling.spanned]
  | [r] =>
    rw [forall_mem_singleton, ← isWord_runClasses_iff]
    exact and_iff_left (forall_mem_nil _)
  | r :: r' :: rs =>
    have hnone : ∀ k ∈ styling.single (r :: r' :: rs), IsWord k := forall_mem_nil _
    exact (and_iff_right hnone).trans (areReadable_runs_iff (r :: r' :: rs))

mutual

theorem areReadable_joined_iff : ∀ b : Branch Float, AreReadable (styling.joined c b) ↔
    ∀ r ∈ b.runs c, HasPlainBlanks r.font.family
  | .node site children => by
    have hchildren := areReadable_joinedOfAll_iff children
    have hown : site.element.kind.content? = none → AreReadable [styling.pieces c site] :=
      areReadable_pieces
    rw [Markup.Styling.joined, Branch.runs]
    cases hk : site.element.kind with
    | text t => exact areReadable_text_iff hk
    | container l =>
      rw [← hchildren]
      exact forall_mem_append.trans (and_iff_right (hown (by rw [hk]; rfl)))
    | group =>
      rw [← hchildren]
      exact forall_mem_append.trans (and_iff_right (hown (by rw [hk]; rfl)))
    | _ => exact iff_of_true (hown (by rw [hk]; rfl)) (forall_mem_nil _)

theorem areReadable_joinedOfAll_iff : ∀ bs : List (Branch Float),
    AreReadable (styling.joinedOfAll c bs) ↔
      ∀ r ∈ Branch.runsOfAll c bs, HasPlainBlanks r.font.family
  | [] => iff_of_true (forall_mem_nil _) (forall_mem_nil _)
  | b :: bs => by
    rw [Markup.Styling.joinedOfAll, Branch.runsOfAll, forall_mem_append,
      ← areReadable_joined_iff b, ← areReadable_joinedOfAll_iff bs]
    exact forall_mem_append

end

end

end Tailwind

/-- **The classes of a document are read back from the attributes they are joined in,** exactly if
no family of a font in it has white space other than plain blanks. -/
theorem normalize_splitsInto (o : NormalizeOptions Float) (c : Context)
    (selection : List (HostNode Float)) {a : Arena Float}
    (h : (normalizeInto o c selection).1 = .ok a) (d : Context) :
    ∃ bs, a.branches = .ok bs ∧
      Framework.code d bs .tailwind =
        "\n".intercalate (Markup.linesOfAll 0 (Tailwind.styling.documents d bs)) ∧
      Markup.valuesOf "class" (Markup.writtenOfAll (Tailwind.styling.documents d bs)) =
        (Tailwind.styling.joinedOfAll d bs).map (" ".intercalate ·) ∧
      ((∀ l ∈ Tailwind.styling.joinedOfAll d bs, SplitsInto (" ".intercalate l) l) ↔
        ∀ r ∈ Branch.runsOfAll d bs, HasPlainBlanks r.font.family) := by
  obtain ⟨_, rfl⟩ := normalizeSources_eq_ok_iff.mp h
  refine ⟨_, (Arena.restructure_holds o _).branches_eq, Tailwind.body_eq d _, ?_, ?_⟩
  · exact Markup.Styling.valuesOf_documents (by decide : Tailwind.styling.attributeName ≠ _) _
  · rw [← Tailwind.areReadable_joinedOfAll_iff]
    exact forall₂_congr fun l _ => splitsInto_intercalate_iff

theorem sign_splitsInto : ∃ (a : Arena Float) (bs : List (Branch Float)) (l : List String),
    (normalizeInto default .empty (sign "Open Sans, Bold")).1 = .ok a ∧ a.branches = .ok bs ∧
      (∀ r ∈ Branch.runsOfAll .empty bs, HasPlainBlanks r.font.family) ∧
      l ∈ Tailwind.styling.joinedOfAll .empty bs ∧ "font-['Open_Sans,Bold']" ∈ l ∧
      SplitsInto (" ".intercalate l) l := by
  have hholds := Arena.restructure_holds default (HostNode.toSources (sign "Open Sans, Bold"))
  obtain ⟨bs, hbs, _, _, hsplits⟩ :=
    normalize_splitsInto default .empty (sign "Open Sans, Bold") rfl .empty
  cases hbs.symm.trans hholds.branches_eq
  have hfamilies : ∀ r ∈ Branch.runsOfAll .empty (Scene.branches none
      (Source.buildAll default none (HostNode.toSources (sign "Open Sans, Bold")) ⟨0, []⟩).1),
      HasPlainBlanks r.font.family := by
    intro r hr
    rw [mem_singleton.mp hr]
    exact (by decide : HasPlainBlanks "Open Sans, Bold")
  refine ⟨_, _, _, rfl, hbs, hfamilies, mem_cons_self, ?_, hsplits.mpr hfamilies _ mem_cons_self⟩
  exact mem_append_right _ (mem_append_right _ mem_cons_self)

end Artboard
