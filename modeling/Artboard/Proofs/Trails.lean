import Artboard.Proofs.Ids
import Artboard.Proofs.Places

/-!
# Tones that are passed on

A node fades and turns all that lies in it, so what is seen of a survivor depends on its own opacity
and rotation and on those of everything around it. No rewrite looks at either. A group that dissolves
takes its tone with it, and a background passes its own on to the siblings that are put on it.
-/

open List

namespace Artboard

/-- What a node does to all that lies in it. -/
structure Tone (α : Type) where
  opacity : α
  rotation : α

def Props.tone {α : Type} (p : Props α) : Tone α := ⟨p.opacity, p.geometry.rotation⟩

theorem Draft.tone_snapshot {α : Type} [Scalar α] [Circular α] {d : Draft α} {e : Element α}
    (h : d.snapshot = some e) : e.props.tone = d.props.tone := by
  rcases Draft.snapshot_cases h with ⟨_, hprops⟩ | rfl
  · rw [hprops]
    rfl
  · rfl

/-! ## Lists that are put below something more -/

section
variable {β γ δ : Type}

def enclose (x : β) (ps : List (List β × γ)) : List (List β × γ) := ps.map fun p => (x :: p.1, p.2)

def lay : Option β → List (List β × γ) → List (List β × γ)
  | some x, p :: ps => p :: enclose x ps
  | _, ps => ps

theorem lay_none (ps : List (List β × γ)) : lay none ps = ps := by
  cases ps <;> rfl

theorem lay_nil (x? : Option β) : lay x? ([] : List (List β × γ)) = [] := by
  cases x? <;> rfl

variable {f : List β → List δ} {x : β}

theorem map_enclose {y : δ} (hf : ∀ l, f (x :: l) = y :: f l) (ps : List (List β × γ)) :
    (enclose x ps).map (Prod.map f id) = enclose y (ps.map (Prod.map f id)) := by
  simp [enclose, hf, Function.comp_def]

theorem map_enclose_of_drop (hf : ∀ l, f (x :: l) = f l) (ps : List (List β × γ)) :
    (enclose x ps).map (Prod.map f id) = ps.map (Prod.map f id) := by
  simp [enclose, hf, Function.comp_def, Prod.map]

theorem map_lay {g : δ → β} (hf : ∀ z l, f (g z :: l) = z :: f l) (z? : Option δ)
    (ps : List (List β × γ)) :
    (lay (z?.map g) ps).map (Prod.map f id) = lay z? (ps.map (Prod.map f id)) := by
  cases z? with
  | none => simp [lay_none]
  | some z =>
    cases ps with
    | nil => rfl
    | cons p ps => simp [lay, map_enclose (hf z)]

theorem map_lay_of_drop {g : δ → β} (hf : ∀ z l, f (g z :: l) = f l) (z? : Option δ)
    (ps : List (List β × γ)) :
    (lay (z?.map g) ps).map (Prod.map f id) = ps.map (Prod.map f id) := by
  cases z? with
  | none => simp [lay_none]
  | some z =>
    cases ps with
    | nil => rfl
    | cons p ps => simp [lay, map_enclose_of_drop (hf z)]

end

/-! ## Trails -/

/-- What a run does to a tone on the way to a survivor. -/
inductive Fate
  | kept
  | discarded
  | added
  deriving DecidableEq, Repr

/-- The tones around a survivor before a run or after it, outermost first and its own last. -/
abbrev Trail (α : Type) := List (Fate × Tone α)

namespace Trail

variable {α : Type}

def those (f : Fate) (t : Trail α) : List (Tone α) := (t.filter fun p => p.1 = f).map (·.2)

def without (f : Fate) (t : Trail α) : List (Tone α) := (t.filter fun p => p.1 ≠ f).map (·.2)

def before (t : Trail α) : List (Tone α) := t.without .added

def after (t : Trail α) : List (Tone α) := t.without .discarded

theorem without_perm (f : Fate) (t : Trail α) : t.without f ++ t.those f ~ t.map (·.2) := by
  unfold without those
  rw [← map_append]
  refine Perm.map _ (perm_append_comm.trans ?_)
  simpa using filter_append_perm (fun p : Fate × Tone α => decide (p.1 = f)) t

/-- **What was discarded and what was added is all that tells the tones apart.** -/
theorem after_perm (t : Trail α) : t.after ++ t.those .discarded ~ t.before ++ t.those .added :=
  (without_perm .discarded t).trans (without_perm .added t).symm

theorem before_cons {f : Fate} (hf : f ≠ .added) (x : Tone α) (t : Trail α) :
    before ((f, x) :: t) = x :: t.before := by
  simp [before, without, hf]

theorem before_added (x : Tone α) (t : Trail α) : before ((.added, x) :: t) = t.before := rfl

theorem after_kept (x : Tone α) (t : Trail α) : after ((.kept, x) :: t) = x :: t.after := rfl

theorem after_discarded (x : Tone α) (t : Trail α) : after ((.discarded, x) :: t) = t.after := rfl

theorem after_added (x : Tone α) (t : Trail α) : after ((.added, x) :: t) = x :: t.after := rfl

end Trail

namespace Figure

variable {α : Type}

mutual

def lineages : Figure α → List (List (Tone α) × Element α)
  | node e cs =>
    if e.kind.isGroup then enclose e.props.tone (lineagesOfAll cs)
    else ([e.props.tone], e) :: enclose e.props.tone (lineagesOfAll cs)

def lineagesOfAll : List (Figure α) → List (List (Tone α) × Element α)
  | [] => []
  | f :: fs => lineages f ++ lineagesOfAll fs

end

end Figure

namespace Source

variable {α : Type} [Scalar α]

mutual

def lineages : Source α → List (List (Tone α) × Source α)
  | node d cs =>
    if !d.isKept then []
    else if d.kind = .group then enclose d.props.tone (lineagesOfAll cs)
    else
      ([d.props.tone], node d cs) ::
        if d.kind.hasChildren then enclose d.props.tone (lineagesOfAll cs) else []

def lineagesOfAll : List (Source α) → List (List (Tone α) × Source α)
  | [] => []
  | s :: ss => lineages s ++ lineagesOfAll ss

end

variable [Circular α] (o : NormalizeOptions α)

def ground? (s : Source α) : Option (Tone α) := (s.promoted? o).map (·.element.props.tone)

/-- What becomes of the tone of a source. A group's goes if one figure takes the group's place: the
only one below it, or that on which the others are put. -/
def fate (s : Source α) : Fate :=
  if s.draft.kind = .group ∧ ((figures o s.children).length = 1 ∨ (s.ground? o).isSome) then
    .discarded
  else .kept

theorem fate_ne_added (s : Source α) : s.fate o ≠ .added := by
  unfold fate
  split <;> nofun

mutual

def trails : Source α → List (Trail α × Source α)
  | node d cs =>
    let here : Fate × Tone α := ((node d cs).fate o, d.props.tone)
    let below := lay (((node d cs).ground? o).map (Fate.added, ·)) (trailsOfAll cs)
    if !d.isKept then []
    else if d.kind = .group then enclose here below
    else ([here], node d cs) :: if d.kind.hasChildren then enclose here below else []

def trailsOfAll : List (Source α) → List (Trail α × Source α)
  | [] => []
  | s :: ss => trails s ++ trailsOfAll ss

end

variable {d : Draft α} (cs : List (Source α))

theorem trailsOfAll_cons (s : Source α) (ss : List (Source α)) :
    trailsOfAll o (s :: ss) = trailsOfAll o [s] ++ trailsOfAll o ss := by
  simp only [trailsOfAll, append_nil]

theorem trailsOfAll_of_not_isKept (h : d.isKept = false) : trailsOfAll o [node d cs] = [] := by
  simp [trailsOfAll, trails, h]

theorem trailsOfAll_leaf (h : d.isKept = true) (hk : d.kind.hasChildren = false) :
    trailsOfAll o [node d cs] = [([(.kept, d.props.tone)], node d cs)] := by
  have hg : d.kind ≠ .group := by
    intro hg
    rw [hg] at hk
    cases hk
  have hfate : (node d cs).fate o = .kept := by simp [fate, draft, hg]
  simp [trailsOfAll, trails, h, hk, hg, hfate]

theorem trailsOfAll_container (h : d.isKept = true) (hk : d.kind = .container) :
    trailsOfAll o [node d cs] =
      ([(.kept, d.props.tone)], node d cs) ::
        enclose (.kept, d.props.tone)
          (lay (((node d cs).ground? o).map (Fate.added, ·)) (trailsOfAll o cs)) := by
  have hfate : (node d cs).fate o = .kept := by simp [fate, draft, hk]
  simp [trailsOfAll, trails, h, hk, hfate, SourceKind.hasChildren]

theorem trailsOfAll_group (h : d.isKept = true) (hk : d.kind = .group) :
    trailsOfAll o [node d cs] =
      enclose ((node d cs).fate o, d.props.tone)
        (lay (((node d cs).ground? o).map (Fate.added, ·)) (trailsOfAll o cs)) := by
  simp [trailsOfAll, trails, h, hk]

mutual

theorem map_before_trails : ∀ s : Source α,
    (trails o s).map (Prod.map Trail.before id) = lineages s
  | node d cs => by
    have ih := map_before_trailsOfAll cs
    have hbelow : (enclose ((node d cs).fate o, d.props.tone)
        (lay (((node d cs).ground? o).map (Fate.added, ·)) (trailsOfAll o cs))).map
          (Prod.map Trail.before id) = enclose d.props.tone (lineagesOfAll cs) := by
      rw [map_enclose (Trail.before_cons (fate_ne_added o _) _),
        map_lay_of_drop Trail.before_added, ih]
    have hhere := Trail.before_cons (fate_ne_added o (node d cs)) d.props.tone []
    unfold trails lineages
    split
    · rfl
    · split
      · exact hbelow
      · rw [map_cons, apply_ite (map (Prod.map Trail.before id)), hbelow, Prod.map_apply, hhere]
        rfl

theorem map_before_trailsOfAll : ∀ ss : List (Source α),
    (trailsOfAll o ss).map (Prod.map Trail.before id) = lineagesOfAll ss
  | [] => rfl
  | s :: ss => by
    rw [trailsOfAll, lineagesOfAll, map_append, map_before_trails s, map_before_trailsOfAll ss]

end

end Source

/-! ## The tones of figures -/

namespace Figure

variable {α : Type}

theorem lineagesOfAll_eq_flatMap :
    ∀ fs : List (Figure α), lineagesOfAll fs = fs.flatMap lineages
  | [] => rfl
  | f :: fs => by rw [lineagesOfAll, lineagesOfAll_eq_flatMap fs, flatMap_cons]

theorem lineagesOfAll_singleton (f : Figure α) : lineagesOfAll [f] = f.lineages := by
  simp [lineagesOfAll]

theorem lineagesOfAll_perm {fs gs : List (Figure α)} (h : fs ~ gs) :
    lineagesOfAll fs ~ lineagesOfAll gs := by
  simp only [lineagesOfAll_eq_flatMap]
  exact h.flatMap_right _

theorem lineages_of_not_isGroup {e : Element α} (he : e.kind.isGroup = false)
    (cs : List (Figure α)) :
    (node e cs).lineages = ([e.props.tone], e) :: enclose e.props.tone (lineagesOfAll cs) := by
  simp [lineages, he]

theorem lineages_of_isGroup {e : Element α} (he : e.kind.isGroup = true) (cs : List (Figure α)) :
    (node e cs).lineages = enclose e.props.tone (lineagesOfAll cs) := by
  simp [lineages, he]

end Figure

namespace Source

variable {α : Type} [Scalar α] [Circular α] {hollow : Source α → Prop}

namespace Follows

variable {steady : Prop} {ps : List (List (Tone α) × Source α)}
variable {qs : List (List (Tone α) × Element α)}

theorem enclose (h : Follows hollow steady ps qs) (x : Tone α) :
    Follows hollow steady (enclose x ps) (enclose x qs) := by
  obtain ⟨rs, hrs, hperm, hsteady⟩ := h
  refine ⟨Artboard.enclose x rs, ?_, hperm.map _, fun hs => by rw [hsteady hs]⟩
  unfold Artboard.enclose
  rw [forall₂_map_left_iff, forall₂_map_right_iff]
  exact hrs.imp fun _ _ ⟨hway, hb⟩ => ⟨congrArg (x :: ·) hway, hb⟩

theorem eq_nil (h : Follows hollow steady ps []) : ps = [] := by
  obtain ⟨rs, hrs, hperm, _⟩ := h
  rw [perm_nil.mp hperm, forall₂_nil_right_iff] at hrs
  exact hrs

theorem exists_eq_singleton {q : List (Tone α) × Element α} (h : Follows hollow steady ps [q]) :
    ∃ s, ps = [(q.1, s)] ∧ s.Becomes hollow q.2 := by
  obtain ⟨rs, hrs, hperm, _⟩ := h
  rw [perm_singleton.mp hperm] at hrs
  cases hrs with
  | cons hp hnil =>
    cases hnil
    exact ⟨_, by rw [← hp.1], hp.2⟩

end Follows

variable (hollow) in
/-- The sources have become the elements of the figures, those of each figure in one piece. -/
inductive FollowsEach : List (List (Tone α) × Source α) → List (Figure α) → Prop
  | nil : FollowsEach [] []
  | cons {ps qs : List (List (Tone α) × Source α)} {f : Figure α} {fs : List (Figure α)}
      (hf : Follows hollow False ps f.lineages) (hfs : FollowsEach qs fs) :
      FollowsEach (ps ++ qs) (f :: fs)

namespace FollowsEach

variable {ps qs : List (List (Tone α) × Source α)} {fs gs : List (Figure α)}

theorem append (h : FollowsEach hollow ps fs) (h' : FollowsEach hollow qs gs) :
    FollowsEach hollow (ps ++ qs) (fs ++ gs) := by
  induction h with
  | nil => exact h'
  | cons hf _ ih =>
    rw [append_assoc]
    exact .cons hf ih

theorem follows (h : FollowsEach hollow ps fs) :
    Follows hollow False ps (Figure.lineagesOfAll fs) := by
  induction h with
  | nil => exact .nil
  | cons hf _ ih => exact hf.append ih

theorem singleton {f : Figure α} (h : Follows hollow False ps f.lineages) :
    FollowsEach hollow ps [f] := by
  rw [← append_nil ps]
  exact .cons h .nil

theorem of_option {r : Option (Figure α)}
    (h : Follows hollow False ps (Figure.lineagesOfAll r.toList)) :
    FollowsEach hollow ps r.toList := by
  cases r with
  | none =>
    rw [h.eq_nil]
    exact .nil
  | some f =>
    rw [Option.toList_some, Figure.lineagesOfAll_singleton] at h
    exact singleton h

end FollowsEach

end Source

/-! ## Rewrites keep the tones but for those of grounds and groups -/

namespace Figure

open Source

variable {α : Type} [Scalar α] [Circular α] {hollow : Source α → Prop} {o : NormalizeOptions α}

theorem carries_lineages (g : Element α → Element α)
    (hg : ∀ e, (g e).kind.isGroup = e.kind.isGroup)
    (htone : ∀ e, (g e).props.tone = e.props.tone) (hturn : ∀ e, Turns hollow e (g e))
    (fs : List (Figure α)) :
    Forall₂ (Carries hollow) (lineagesOfAll fs) (lineagesOfAll (fs.map (mapElement g))) := by
  have hrefl : ∀ qs : List (List (Tone α) × Element α), Forall₂ (Carries hollow) qs qs := fun qs =>
    forall₂_same.mpr fun q _ => carries_refl q
  induction fs with
  | nil => exact .nil
  | cons f fs ih =>
    obtain ⟨e, cs⟩ := f
    simp only [map_cons, mapElement, lineagesOfAll, lineages, hg, htone]
    refine rel_append ?_ ih
    split
    · exact hrefl _
    · exact .cons ⟨rfl, hturn e⟩ (hrefl _)

theorem carries_lineages_settle (f : Flow) (fs : List (Figure α)) :
    Forall₂ (Carries hollow) (lineagesOfAll fs)
      (lineagesOfAll (fs.map (mapElement (Element.settle f)))) :=
  carries_lineages _ (isGroup_settle f) (fun e => by rw [Element.props_settle])
    (fun _ _ h => h.settle f) fs

theorem carries_lineages_shift (dx dy : α) (fs : List (Figure α)) :
    Forall₂ (Carries hollow) (lineagesOfAll fs) (lineagesOfAll (fs.map fun f => f.shift dx dy)) :=
  carries_lineages (fun e => e.shift dx dy) (fun _ => rfl) (fun _ => rfl)
    (fun _ _ h => h.shift dx dy) fs

theorem carries_lineages_shift_one (dx dy : α) (f : Figure α) :
    Forall₂ (Carries hollow) f.lineages (f.shift dx dy).lineages := by
  rw [← lineagesOfAll_singleton, ← lineagesOfAll_singleton]
  exact carries_lineages_shift dx dy [f]

variable {ps : List (List (Tone α) × Source α)}

theorem follows_settled {e : Element α} {cs : List (Figure α)} {s : Source α}
    (he : e.kind.isGroup = false) (hs : s.Becomes hollow e)
    (h : Follows hollow False ps (lineagesOfAll cs)) :
    Follows hollow False (([e.props.tone], s) :: enclose e.props.tone ps)
      (settled e cs).lineages := by
  rw [settled, lineages_of_not_isGroup he]
  exact ((h.carry (carries_lineages_settle e.flow cs)).enclose _).cons _ hs

theorem lineages_promote {b : Figure α} {rest : List (Figure α)} {i : Inference α}
    (h : FollowsEach hollow ps (b :: rest)) (hfit : Every (IsFit o) b)
    (hprom : b.isPromotable = true) (horder : inOrder (b :: rest) i.order ~ rest) :
    Follows hollow False (lay (some b.element.props.tone) ps)
      (promote (b :: rest) i b).lineages := by
  obtain ⟨hk, hcs⟩ := kind_of_isPromotable hfit hprom
  obtain ⟨e, cs⟩ := b
  simp only [element_node] at hk
  simp only [children_node] at hcs
  subst hcs
  cases h with
  | cons hb hrest =>
    -- the background is all there is in its figure, so it is the first and the only one left out
    have hnone : enclose e.props.tone (lineagesOfAll ([] : List (Figure α))) = [] := rfl
    rw [lineages_of_not_isGroup (by rw [hk]; rfl), hnone] at hb
    obtain ⟨s, rfl, hs⟩ := hb.exists_eq_singleton
    have hordered := hrest.follows.perm (lineagesOfAll_perm horder).symm nofun
    exact follows_settled rfl (hs.promoted hk i) (hordered.carry (carries_lineages_shift _ _ _))

variable {d : Draft α} {cs : List (Source α)}

theorem lineages_container {f : Figure α} {l : ContainerLayout α} (hk : d.kind = .container)
    (he : d.snapshot = some ⟨.container l, d.snapshotProps⟩)
    (ih : FollowsEach IsHollow ps (figures o cs))
    (hstep : ContainerStep o d.declared.isSome ⟨.container l, d.snapshotProps⟩ l
      (figures o cs) f) :
    Follows IsHollow False
      (([d.props.tone], .node d cs) ::
        enclose d.props.tone (lay ((Source.node d cs).ground? o) ps)) f.lineages := by
  have hfit := isFit_figures o cs
  have hsome := promoted?_container (o := o) cs hk
  unfold ground?
  cases hstep with
  | empty hcs =>
    rw [hcs] at ih
    cases ih
    rw [lay_nil]
    exact .cons _ (becomes_emptied he hcs) .nil
  | kept hne hfree =>
    rw [promoted?_container_of_kept cs hk fun hd hi => (hfree hd hi).1, Option.map_none, lay_none]
    exact follows_settled rfl (becomes_container he hne l) ih.follows
  | flowing hne hd hi hb _ horder =>
    rw [promoted?_of_no_background hb, Option.map_none, lay_none]
    exact follows_settled rfl (becomes_container he hne _)
      -- reordering the children only permutes what is below
      (ih.follows.perm (lineagesOfAll_perm horder).symm nofun)
  | promoted b rest hcs hrest hd hi hprom hb horder =>
    have hdecl : d.declared.isNone = true := by simpa using hd
    rw [hb, hi, hdecl] at hsome
    rw [hsome]
    have hne : figures o cs ≠ [] := hcs ▸ cons_ne_nil _ _
    refine follows_settled rfl (becomes_container he hne _) ?_
    rw [hcs] at ih hfit horder ⊢
    rw [lineagesOfAll_singleton]
    exact lineages_promote ih hfit.1 hprom horder

theorem lineages_group {r : Option (Figure α)} (hk : d.kind = .group)
    (ih : FollowsEach hollow ps (figures o cs))
    (hstep : GroupStep o ⟨.group, d.snapshotProps⟩ (figures o cs) r) :
    Follows hollow False
      (if (Source.node d cs).fate o = .kept then
          enclose d.props.tone (lay ((Source.node d cs).ground? o) ps)
        else lay ((Source.node d cs).ground? o) ps) (lineagesOfAll r.toList) := by
  have hsome := promoted?_group (o := o) cs hk
  have hdiscarded : (figures o cs).length = 1 ∨ ((Source.node d cs).ground? o).isSome →
      (Source.node d cs).fate o ≠ .kept := fun h => by
    rw [fate, if_pos ⟨hk, h⟩]
    decide
  -- the group's own tone is kept only where the group is
  cases hstep with
  | empty hcs =>
    rw [hcs] at ih
    cases ih
    rw [lay_nil]
    exact (ite_self _).symm ▸ .nil
  | single f hcs =>
    have hnone : (Source.node d cs).promoted? o = none :=
      promoted?_of_length (by simp [Source.children, hcs])
    rw [if_neg (hdiscarded (.inl (by rw [hcs]; rfl))), ground?, hnone, Option.map_none,
      lay_none, Option.toList_some, lineagesOfAll_singleton]
    rw [hcs] at ih
    have hf := ih.follows
    rw [lineagesOfAll_singleton] at hf
    exact hf.carry (carries_lineages_shift_one _ _ f)
  | promoted b rest hcs hrest hi hprom hb horder =>
    have hfit := isFit_figures o cs
    rw [hb, hi] at hsome
    have hground : (Source.node d cs).ground? o = some b.element.props.tone := by
      rw [ground?, hsome]
      rfl
    rw [if_neg (hdiscarded (.inr (by rw [hground]; rfl))), hground, Option.toList_some,
      lineagesOfAll_singleton]
    rw [hcs] at ih hfit horder ⊢
    exact (lineages_promote ih hfit.1 hprom horder).carry (carries_lineages_shift_one _ _ _)
  | kept htwo hfree =>
    have hnone := promoted?_group_of_kept cs hk hfree
    have hkept : (Source.node d cs).fate o = .kept := by
      have hone : (figures o cs).length ≠ 1 := by omega
      simp [fate, ground?, Source.children, hnone, hone]
    rw [hkept, if_pos rfl, ground?, hnone, Option.map_none, lay_none, Option.toList_some,
      lineagesOfAll_singleton, lineages_of_isGroup rfl]
    exact ih.follows.enclose _

end Figure

namespace Source

variable {α : Type} [Scalar α] [Circular α] (o : NormalizeOptions α)

def lineagesAfter (ss : List (Source α)) : List (List (Tone α) × Source α) :=
  (trailsOfAll o ss).map (Prod.map Trail.after id)

theorem lineages_induction :
    Induction o fun ss fs => FollowsEach IsHollow (lineagesAfter o ss) fs where
  nil := .nil
  append := fun hs hss => by
    rw [lineagesAfter, trailsOfAll_cons, map_append]
    exact hs.append hss
  omitted := fun hkept => by
    rw [lineagesAfter, trailsOfAll_of_not_isKept _ _ hkept]
    exact .nil
  leaf := fun {d cs e} hkept hk he => by
    have hsame := Kind.of_isParent_eq_false ((Draft.isParent_snapshot he).trans hk)
    rw [lineagesAfter, trailsOfAll_leaf _ _ hkept hk]
    refine .singleton ?_
    rw [Figure.lineages_of_not_isGroup hsame.2, Draft.tone_snapshot he]
    exact .cons _ ⟨e, he, Props.agreeButPlace_refl _, .same hsame.1⟩ .nil
  container := fun {d cs f} hkept hk ih hstep => by
    rw [lineagesAfter, trailsOfAll_container _ _ hkept hk, map_cons,
      map_enclose (Trail.after_kept _), map_lay Trail.after_added]
    exact .singleton (Figure.lineages_container hk (Draft.snapshot_container hk) ih hstep)
  group := fun {d cs r} hkept hk ih hstep => by
    have h := Figure.lineages_group hk ih hstep
    refine .of_option ?_
    rw [lineagesAfter, trailsOfAll_group _ _ hkept hk]
    -- a group that is given up drops its tone from every lineage below
    cases hfate : (node d cs).fate o with
    | kept =>
      rw [hfate, if_pos rfl] at h
      rwa [map_enclose (Trail.after_kept _), map_lay Trail.after_added]
    | discarded =>
      rw [hfate, if_neg (by decide)] at h
      rwa [map_enclose_of_drop (Trail.after_discarded _), map_lay Trail.after_added]
    | added => exact absurd hfate (fate_ne_added o _)

end Source

end Artboard
