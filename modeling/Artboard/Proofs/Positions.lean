import Artboard.Proofs.Extents
import Artboard.Proofs.Rows

/-!
# Positions in documents

Whether an element is absolute is asked of its parent, whether it is relative of what it holds
itself, and each tag is written for one answer. The answers fit: what holds an absolute element has
a position of its own, so the offsets of the element count from its parent and from nothing further
up.
-/

open List

namespace Artboard

def Kind.isFree {α : Type} : Kind α → Bool
  | group => true
  | container l => l.flow == .free
  | _ => false

theorem Kind.isFree_iff {α : Type} {k : Kind α} (h : k.isParent = true) :
    k.isFree = true ↔ k.flow = .free := by
  cases k with
  | container l => simp [isFree, flow, layout?]
  | group => simp [isFree, flow, layout?]
  | _ => cases h

namespace Site

variable {α : Type}

theorem position_eq_absolute_iff {site : Site α} :
    site.position = .absolute ↔ site.parentFlow = some .free := by
  have habsolute : site.isAbsolute = true ↔ site.parentFlow = some .free := by simp [isAbsolute]
  unfold position
  rw [← habsolute]
  by_cases h : site.isAbsolute = true
  · simp [h]
  · by_cases hhost : site.hostsAbsolute = true <;> simp [h, hhost]

theorem position_ne_static {site : Site α} (hlinked : site.isLinked = true)
    (hflow : site.element.flow = .free) : site.position ≠ .static := by
  have hhost : site.hostsAbsolute = true := by simp [hostsAbsolute, hlinked, hflow, Flow.isFlow]
  unfold position
  by_cases h : site.isAbsolute = true <;> simp [h, hhost]

end Site

/-! ## Words for positions -/

/-- A format that styles documents: what it writes on the tag of a branch, and which of that are its
words for positions. -/
structure PositionWords (β : Type) where
  styling : Markup.Styling
  written : Context → Site Float → List β
  text : β → String
  isWord : β → Bool
  anchor : Position → List β

structure PositionWords.IsFaithful {β : Type} (w : PositionWords β) : Prop where
  pieces_eq : ∀ c site, w.styling.pieces c site = (w.written c site).map w.text
  filter_eq : ∀ c site, (w.written c site).filter w.isWord = w.anchor site.position
  anchor_injective : Function.Injective w.anchor

namespace Html

def positions : PositionWords Declaration where
  styling := styling
  written := written
  text := Declaration.text
  isWord d := d.property == "position"
  anchor := anchor

theorem filter_sizing_isWord (site : Site Float) (axis : Axis) :
    (sizing site axis).filter positions.isWord = [] := by
  apply filter_eq_nil_iff.mpr
  intro d hd hword
  have hsizing := isSizing_of_mem_sizing site hd
  have hproperty : d.property = "position" := eq_of_beq hword
  rw [isSizing, hproperty] at hsizing
  exact absurd hsizing (by decide)

theorem positions_isFaithful : positions.IsFaithful where
  pieces_eq := pieces_eq
  filter_eq c site := by
    have hanchor : (anchor site.position).filter positions.isWord = anchor site.position := by
      cases site.position <;> rfl
    change (written c site).filter positions.isWord = anchor site.position
    rw [filter_filter_of_imp (q := isPlacing) (by simp +contextual [isPlacing, positions]),
      filter_written, filter_append, filter_append, filter_sizing_isWord, filter_sizing_isWord,
      append_nil, append_nil, hanchor]
  anchor_injective x y h := by cases x <;> cases y <;> simp [positions, anchor] at h ⊢

end Html

namespace Tailwind

def positions : PositionWords String where
  styling := styling
  written := written
  text := id
  isWord k := k == "absolute" || k == "relative"
  anchor := anchor

theorem eq_of_isWord {k : String} (h : positions.isWord k = true) :
    k = "absolute" ∨ k = "relative" := by
  simpa [positions] using h

theorem isPlacing_of_isWord (k : String) (h : positions.isWord k = true) : isPlacing k = true := by
  rcases eq_of_isWord h with rfl | rfl
  · decide
  · decide

theorem filter_sizing_isWord (site : Site Float) (axis : Axis) :
    (sizing site axis).filter positions.isWord = [] := by
  apply filter_eq_nil_iff.mpr
  intro k hk hword
  have hsizing := isSizing_of_mem_sizing site hk
  rcases eq_of_isWord hword with rfl | rfl
  · exact absurd hsizing (by decide)
  · exact absurd hsizing (by decide)

theorem positions_isFaithful : positions.IsFaithful where
  pieces_eq c site := (map_id (written c site)).symm
  filter_eq c site := by
    have hanchor : (anchor site.position).filter positions.isWord = anchor site.position := by
      cases site.position <;> rfl
    change (written c site).filter positions.isWord = anchor site.position
    rw [filter_filter_of_imp isPlacing_of_isWord, filter_written, filter_append, filter_append,
      filter_sizing_isWord, filter_sizing_isWord, append_nil, append_nil, hanchor]
  anchor_injective x y h := by cases x <;> cases y <;> simp [positions, anchor] at h ⊢

end Tailwind

/-! ## Tags of slots -/

def Markup.children : Markup → List Markup
  | box _ ms => ms
  | _ => []

namespace Arena

section
variable {β : Type} (a : Arena Float) (w : PositionWords β) (c : Context)

/-- Every number has a tag with what is written for its slot, and the tags of what the slot lists
stand inside. -/
inductive Writes : List Nat → List Markup → Prop
  | nil : Writes [] []
  | cons {i : Nat} {s : Slot Float} {site : Site Float} {m : Markup} {is : List Nat}
      {ms : List Markup} (hs : a.get? i = some s) (hsite : a.site s = .ok site)
      (hattributes : m.attributes = [Markup.Styling.name site.element,
        w.styling.style ((w.written c site).map w.text)])
      (hinside : Writes s.children m.children) (hrest : Writes is ms) : Writes (i :: is) (m :: ms)

def Emits (i : Nat) (x : Position) : Prop :=
  ∃ s site, a.get? i = some s ∧ a.site s = .ok site ∧
    (w.written c site).filter w.isWord = w.anchor x

def IsPositioned (i : Nat) : Prop := ∃ x, a.Emits w c i x ∧ x ≠ .static

/-- The slot `q` is the nearest one around a slot that is positioned. -/
inductive Anchors (q : Nat) : Nat → Prop
  | parent {i : Nat} (hq : a.Reachable q) (hi : a.Lists q i) (hpositioned : a.IsPositioned w c q) :
      Anchors q i
  | above {p i : Nat} (hp : a.Reachable p) (hi : a.Lists p i)
      (hstatic : ¬a.IsPositioned w c p) (hanchors : Anchors q p) : Anchors q i

structure IsAnchored : Prop where
  position : ∀ i, a.Reachable i → ∃! x, a.Emits w c i x
  absolute_iff : ∀ i, a.Reachable i → (a.Emits w c i .absolute ↔
    ∃ p s, a.Reachable p ∧ a.get? p = some s ∧ i ∈ s.children ∧ s.element.kind.isFree = true)
  anchor : ∀ i, a.Reachable i → a.Emits w c i .absolute →
    ∃ p, a.Reachable p ∧ a.Lists p i ∧ ∀ q, a.Anchors w c q i ↔ q = p

end

section
variable {β : Type} {a : Arena Float} {w : PositionWords β}

theorem writes_scenes (hw : w.IsFaithful) (c : Context) {p : Option Nat} {f : Option Flow}
    (hp : a.parentFlow p = .ok f) : ∀ (ss : List (Scene Float)),
    (∀ {i t}, (i, t) ∈ Scene.slotsOfAll p ss → a.get? i = some t) → Scene.IsLeafy p ss →
      a.Writes w c (ss.map Scene.slot) (w.styling.documents c (Scene.branches f ss))
  | [], _, _ => .nil
  | .node i e cs :: ss, hget, hleafy => by
    have hslot := hget (mem_append_left _ mem_cons_self)
    have hrest := writes_scenes hw c hp ss (fun hm => hget (mem_append_right _ hm)) hleafy.tail
    rw [map_cons, Scene.slot, Scene.branches, Scene.branch, Markup.Styling.documents]
    refine .cons hslot (site_scene hp e cs) ?_ ?_ hrest
    · rw [Markup.Styling.attributes_document, ← hw.pieces_eq]
      rfl
    · by_cases hparent : e.kind.isParent = true
      · rw [Markup.Styling.document_of_isParent _ _ _ hparent, if_pos hparent]
        exact writes_scenes hw c (parentFlow_some hslot) cs
          (fun hm => hget (mem_append_left _ (mem_cons_of_mem _ hm))) hleafy.children
      · -- nothing is listed by a leaf, and nothing stands inside its tag
        have hleaf : e.kind.isParent = false := by simpa using hparent
        cases hleafy.eq_nil hleaf
        have hnil : (w.styling.document c (.node ⟨e, f, false⟩ [])).children = [] := by
          cases hcontent : e.kind.content? with
          | none =>
            rw [w.styling.document_of_leaf c [] hleaf hcontent]
            rfl
          | some content =>
            rw [w.styling.document_of_text c [] (Kind.content?_eq_some_iff.mp hcontent)]
            rfl
        rw [if_neg hparent]
        exact hnil ▸ .nil

theorem emits_iff (hw : w.IsFaithful) {c : Context} {i : Nat} {s : Slot Float} {site : Site Float}
    (hs : a.get? i = some s) (hsite : a.site s = .ok site) {x : Position} :
    a.Emits w c i x ↔ site.position = x := by
  constructor
  · rintro ⟨t, site', ht, hsite', hx⟩
    cases ht.symm.trans hs
    cases hsite'.symm.trans hsite
    rw [hw.filter_eq] at hx
    exact hw.anchor_injective hx
  · rintro rfl
    exact ⟨s, site, hs, hsite, hw.filter_eq c site⟩

end

/-! ## Parents -/

section
variable {a : Arena Float} {scenes : List (Scene Float)} (h : a.Holds scenes)
include h

theorem Holds.lists_unique {i p q : Nat} (hp : a.Reachable p) (hpi : a.Lists p i)
    (hq : a.Reachable q) (hqi : a.Lists q i) : q = p := by
  obtain ⟨s, hs, hparent⟩ := h.names_of_lists hp hpi
  obtain ⟨t, ht, hparent'⟩ := h.names_of_lists hq hqi
  cases hs.symm.trans ht
  cases hparent.symm.trans hparent'
  rfl

theorem Holds.exists_site {i : Nat} (hi : a.Reachable i) : ∃ s parent, a.get? i = some s ∧
    a.site s = .ok ⟨s.element, parent, !s.children.isEmpty⟩ := by
  cases hi with
  | root hroot =>
    obtain ⟨s, hs, _⟩ := h.parent_of_root hroot
    exact ⟨s, _, hs, site_eq (h.isLinked.parentFlow_of_root hroot hs)⟩
  | @child p _ t hp ht hc =>
    obtain ⟨s, hs, _⟩ := h.names_of_lists hp ⟨t, ht, hc⟩
    exact ⟨s, _, hs, site_eq (h.isLinked.parentFlow_of_child hp ht hc hs)⟩

variable {β : Type} {w : PositionWords β} (hw : w.IsFaithful) (c : Context)
include hw

theorem Holds.not_emits_of_root {i : Nat} (hi : i ∈ a.roots) : ¬a.Emits w c i .absolute := by
  intro hemits
  obtain ⟨s, hs, _⟩ := h.parent_of_root hi
  have hsite := site_eq (h.isLinked.parentFlow_of_root hi hs)
  cases Site.position_eq_absolute_iff.mp ((emits_iff hw hs hsite).mp hemits)

theorem Holds.emits_iff_of_child {i p : Nat} {t : Slot Float} (hp : a.Reachable p)
    (ht : a.get? p = some t) (hi : i ∈ t.children) :
    a.Emits w c i .absolute ↔ t.element.flow = .free := by
  obtain ⟨s, hs, _⟩ := h.names_of_lists hp ⟨t, ht, hi⟩
  have hsite := site_eq (h.isLinked.parentFlow_of_child hp ht hi hs)
  rw [emits_iff hw hs hsite, Site.position_eq_absolute_iff, Option.some_inj]

theorem Holds.isPositioned_of_child {i p : Nat} {t : Slot Float} (hp : a.Reachable p)
    (ht : a.get? p = some t) (hi : i ∈ t.children) (hfree : t.element.flow = .free) :
    a.IsPositioned w c p := by
  obtain ⟨s, parent, hs, hsite⟩ := h.exists_site hp
  cases hs.symm.trans ht
  have hlinked : (!t.children.isEmpty) = true := by
    simp [ne_nil_of_mem hi]
  exact ⟨_, (emits_iff hw ht hsite).mpr rfl, Site.position_ne_static hlinked hfree⟩

end

section
variable (o : NormalizeOptions Float) (ss : List (Source Float))

theorem isParent_of_lists {p : Nat} {s : Slot Float} (hp : (restructure o ss).Reachable p)
    (hs : (restructure o ss).get? p = some s) {i : Nat} (hi : i ∈ s.children) :
    s.element.kind.isParent = true := by
  cases hparent : s.element.kind.isParent with
  | true => rfl
  | false =>
    have hmem := (restructure_holds o ss).mem_slots_iff.mpr ⟨hp, hs⟩
    rw [isLeafy_restructure o ss hmem hparent] at hi
    cases hi

variable {β : Type} {w : PositionWords β} (hw : w.IsFaithful) (c : Context)
include hw

theorem restructure_writes : ∃ bs, (restructure o ss).branches = .ok bs ∧
    (restructure o ss).Writes w c (restructure o ss).roots (w.styling.documents c bs) := by
  have hholds := restructure_holds o ss
  refine ⟨_, hholds.branches_eq, ?_⟩
  rw [hholds.roots_eq]
  exact writes_scenes hw c rfl _ hholds.get? (isLeafy_restructure o ss)

theorem restructure_isAnchored : (restructure o ss).IsAnchored w c := by
  have hholds := restructure_holds o ss
  have habsolute : ∀ i, (restructure o ss).Reachable i →
      ((restructure o ss).Emits w c i .absolute ↔ ∃ p t, (restructure o ss).Reachable p ∧
        (restructure o ss).get? p = some t ∧ i ∈ t.children ∧ t.element.kind.isFree = true) := by
    intro i hi
    constructor
    · intro hemits
      cases hi with
      | root hroot => exact absurd hemits (hholds.not_emits_of_root hw c hroot)
      | @child p _ t hp ht hc =>
        have hflow := (hholds.emits_iff_of_child hw c hp ht hc).mp hemits
        exact ⟨p, t, hp, ht, hc, (Kind.isFree_iff (isParent_of_lists o ss hp ht hc)).mpr hflow⟩
    · rintro ⟨p, t, hp, ht, hc, hfree⟩
      have hflow := (Kind.isFree_iff (isParent_of_lists o ss hp ht hc)).mp hfree
      exact (hholds.emits_iff_of_child hw c hp ht hc).mpr hflow
  refine ⟨?_, habsolute, ?_⟩
  · intro i hi
    obtain ⟨s, parent, hs, hsite⟩ := hholds.exists_site hi
    exact ⟨_, (emits_iff hw hs hsite).mpr rfl, fun y hy => ((emits_iff hw hs hsite).mp hy).symm⟩
  · intro i hi hemits
    obtain ⟨p, t, hp, ht, hc, hfree⟩ := (habsolute i hi).mp hemits
    have hflow := (Kind.isFree_iff (isParent_of_lists o ss hp ht hc)).mp hfree
    have hpositioned := hholds.isPositioned_of_child hw c hp ht hc hflow
    refine ⟨p, hp, ⟨t, ht, hc⟩, fun q => ⟨fun hanchors => ?_, ?_⟩⟩
    · cases hanchors with
      | parent hq hqi _ => exact hholds.lists_unique hp ⟨t, ht, hc⟩ hq hqi
      | above hr hri hstatic _ =>
        -- nobody looks further up than a parent that is positioned
        cases hholds.lists_unique hp ⟨t, ht, hc⟩ hr hri
        exact absurd hpositioned hstatic
    · rintro rfl
      exact .parent hp ⟨t, ht, hc⟩ hpositioned

end

end Arena

/-- **Absolute offsets count from the parent.** In both document formats every tag has one position,
it is absolute just below groups and free containers, and these are positioned themselves. -/
theorem normalize_isAnchored (o : NormalizeOptions Float) (c : Context)
    (selection : List (HostNode Float)) {a : Arena Float}
    (h : (normalizeInto o c selection).1 = .ok a) (d : Context) :
    ∃ bs, a.branches = .ok bs ∧
      (a.Writes Html.positions d a.roots (Html.styling.documents d bs) ∧
        a.IsAnchored Html.positions d) ∧
      (a.Writes Tailwind.positions d a.roots (Tailwind.styling.documents d bs) ∧
        a.IsAnchored Tailwind.positions d) := by
  obtain ⟨_, rfl⟩ := normalizeSources_eq_ok_iff.mp h
  obtain ⟨bs, hbs, hhtml⟩ := Arena.restructure_writes o (HostNode.toSources selection)
    Html.positions_isFaithful d
  obtain ⟨bs', hbs', htailwind⟩ := Arena.restructure_writes o (HostNode.toSources selection)
    Tailwind.positions_isFaithful d
  cases hbs.symm.trans hbs'
  exact ⟨bs, hbs, ⟨hhtml, Arena.restructure_isAnchored o _ Html.positions_isFaithful d⟩,
    htailwind, Arena.restructure_isAnchored o _ Tailwind.positions_isFaithful d⟩

theorem cluster_isAnchored : ∃ a : Arena Float,
    (normalizeInto default .empty cluster).1 = .ok a ∧ a.Reachable 3 ∧
      a.Emits Html.positions .empty 3 .absolute ∧ a.Emits Tailwind.positions .empty 3 .absolute ∧
      ∀ q, a.Anchors Html.positions .empty q 3 ↔ q = 0 := by
  have hholds := Arena.restructure_holds default (HostNode.toSources cluster)
  obtain ⟨e, _, _, _, hscenes, he⟩ := cluster_scenes
  rw [hscenes] at hholds
  have hgroup := hholds.get? mem_cons_self
  have hreach : (restructure default (HostNode.toSources cluster)).Reachable 0 :=
    .root (hholds.roots_eq ▸ mem_cons_self)
  have hmem : (3 : Nat) ∈ [1, 3, 4] := by decide
  have hdisc := Arena.Reachable.child hreach hgroup hmem
  obtain ⟨_, _, ⟨_, hhtml⟩, _, htailwind⟩ := normalize_isAnchored default .empty cluster rfl .empty
  have hplace : ∃ p s, (restructure default (HostNode.toSources cluster)).Reachable p ∧
      (restructure default (HostNode.toSources cluster)).get? p = some s ∧ 3 ∈ s.children ∧
        s.element.kind.isFree = true := ⟨0, _, hreach, hgroup, hmem, by rw [he]; rfl⟩
  have hemits := (hhtml.absolute_iff 3 hdisc).mpr hplace
  obtain ⟨p, hp, hlists, hanchor⟩ := hhtml.anchor 3 hdisc hemits
  cases hholds.lists_unique hreach ⟨_, hgroup, hmem⟩ hp hlists
  exact ⟨_, rfl, hdisc, hemits, (htailwind.absolute_iff 3 hdisc).mpr hplace, hanchor⟩

end Artboard
