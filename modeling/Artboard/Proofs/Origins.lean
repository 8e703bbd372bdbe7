import Artboard.Proofs.Correspondence

/-!
# Where elements come from

Every element of a run stems from a survivor of its own, a promoted container from the background it
took over, and groups are no exception. What a survivor tells is still to be read there, only its
place and its kind may have been rewritten.
-/

open List

namespace Artboard

variable {α : Type} [Scalar α] [Circular α]

namespace Source

/-- The element tells what the snapshot of the source tells. -/
def Stems (s : Source α) (e : Element α) : Prop :=
  ∃ e₀, s.draft.snapshot = some e₀ ∧ e₀.props.AgreeButPlace e.props ∧
    (e.kind = .boolean → e₀.kind = .boolean)

namespace Stems

variable {s : Source α} {e : Element α}

theorem congr {e' : Element α} (h : s.Stems e) (hp : e'.props = e.props)
    (hk : e'.kind = .boolean → e.kind = .boolean) : s.Stems e' := by
  obtain ⟨e₀, he₀, hprops, hkind⟩ := h
  exact ⟨e₀, he₀, hp ▸ hprops, fun hb => hkind (hk hb)⟩

theorem shift (h : s.Stems e) (dx dy : α) : s.Stems (e.shift dx dy) := by
  obtain ⟨e₀, he₀, hprops, hkind⟩ := h
  exact ⟨e₀, he₀, hprops.shift dx dy, hkind⟩

theorem settle (h : s.Stems e) (f : Flow) : s.Stems (e.settle f) := by
  rcases Element.container_or_settle_eq f e with ⟨l, hl⟩ | he
  · rw [Element.settle_of_container f hl]
    exact h.congr rfl nofun
  · rwa [he]

end Stems

def Inherits (e e' : Element α) : Prop := ∀ s : Source α, s.Stems e → s.Stems e'

theorem inherits_refl (e : Element α) : Inherits e e := fun _ h => h

/-- The elements stem from some of the sources, one from each. -/
def Bears (ss : List (Source α)) (es : List (Element α)) : Prop :=
  ∃ ss', ss' <+ ss ∧ Pairs Stems ss' es

namespace Bears

variable {ss ts : List (Source α)} {es fs : List (Element α)}

theorem nil (ss : List (Source α)) : Bears ss ([] : List (Element α)) :=
  ⟨[], nil_sublist ss, Pairs.nil⟩

theorem append (hs : Bears ss es) (ht : Bears ts fs) : Bears (ss ++ ts) (es ++ fs) := by
  obtain ⟨ss', hss, hes⟩ := hs
  obtain ⟨ts', hts, hfs⟩ := ht
  exact ⟨ss' ++ ts', hss.append hts, hes.append hfs⟩

theorem cons {s : Source α} {e : Element α} (h : s.Stems e) (hs : Bears ss es) :
    Bears (s :: ss) (e :: es) := by
  obtain ⟨ss', hss, hes⟩ := hs
  exact ⟨s :: ss', hss.cons_cons s, .cons h hes⟩

theorem skip (s : Source α) (hs : Bears ss es) : Bears (s :: ss) es := by
  obtain ⟨ss', hss, hes⟩ := hs
  exact ⟨ss', hss.cons s, hes⟩

theorem perm (h : Bears ss es) (hp : es ~ fs) : Bears ss fs := by
  obtain ⟨ss', hss, hes⟩ := h
  exact ⟨ss', hss, hes.perm hp⟩

theorem inherit (h : Bears ss es) (hc : Forall₂ Inherits es fs) : Bears ss fs := by
  obtain ⟨ss', hss, hes⟩ := h
  exact ⟨ss', hss, hes.comp (fun s _ _ hs hinherits => hinherits s hs) hc⟩

end Bears

end Source

/-! ## The elements of figures -/

namespace Figure

open Source

section
variable {β : Type}

mutual

def elements : Figure β → List (Element β)
  | node e cs => e :: elementsOfAll cs

def elementsOfAll : List (Figure β) → List (Element β)
  | [] => []
  | f :: fs => elements f ++ elementsOfAll fs

end

theorem elementsOfAll_eq_flatMap : ∀ fs : List (Figure β), elementsOfAll fs = fs.flatMap elements
  | [] => rfl
  | f :: fs => by rw [elementsOfAll, elementsOfAll_eq_flatMap fs, flatMap_cons]

theorem elementsOfAll_append (fs gs : List (Figure β)) :
    elementsOfAll (fs ++ gs) = elementsOfAll fs ++ elementsOfAll gs := by
  simp only [elementsOfAll_eq_flatMap, flatMap_append]

theorem elementsOfAll_perm {fs gs : List (Figure β)} (h : fs ~ gs) :
    elementsOfAll fs ~ elementsOfAll gs := by
  simp only [elementsOfAll_eq_flatMap]
  exact h.flatMap_right _

theorem elementsOfAll_node (e : Element β) (cs : List (Figure β)) :
    elementsOfAll [node e cs] = e :: elementsOfAll cs := by
  rw [elementsOfAll, elements, elementsOfAll, append_nil]

end

variable {ss : List (Source α)} {o : NormalizeOptions α}

theorem inherits_map {g : Element α → Element α} (hg : ∀ e, Inherits e (g e)) :
    ∀ fs : List (Figure α), Forall₂ Inherits (elementsOfAll fs)
      (elementsOfAll (fs.map (mapElement g)))
  | [] => .nil
  | node e cs :: fs => by
    refine rel_append (.cons (hg e) ?_) (inherits_map hg fs)
    exact forall₂_same.2 fun _ _ => inherits_refl _

theorem inherits_settle (f : Flow) (fs : List (Figure α)) : Forall₂ Inherits (elementsOfAll fs)
    (elementsOfAll (fs.map (mapElement (Element.settle f)))) :=
  inherits_map (fun _ _ hs => hs.settle f) fs

theorem inherits_shift (dx dy : α) (fs : List (Figure α)) : Forall₂ Inherits (elementsOfAll fs)
    (elementsOfAll (fs.map fun f => f.shift dx dy)) :=
  inherits_map (fun _ _ hs => hs.shift dx dy) fs

theorem inherits_shift_one (dx dy : α) (f : Figure α) :
    Forall₂ Inherits (elementsOfAll [f]) (elementsOfAll [f.shift dx dy]) :=
  inherits_shift dx dy [f]

theorem bears_settled {s : Source α} {e : Element α} {gs : List (Figure α)} (he : s.Stems e)
    (h : Bears ss (elementsOfAll gs)) : Bears (s :: ss) (elementsOfAll [settled e gs]) := by
  rw [settled, elementsOfAll_node]
  exact .cons he (h.inherit (inherits_settle _ _))

theorem bears_promote {b : Figure α} {rest : List (Figure α)} {i : Inference α}
    (h : Bears ss (elementsOfAll (b :: rest))) (hfit : Every (IsFit o) b)
    (hprom : b.isPromotable = true) (horder : inOrder (b :: rest) i.order ~ rest) :
    Bears ss (elementsOfAll [promote (b :: rest) i b]) := by
  obtain ⟨hk, hcs⟩ := kind_of_isPromotable hfit hprom
  obtain ⟨e, cs⟩ := b
  simp only [element_node] at hk
  simp only [children_node] at hcs
  subst hcs
  rw [elementsOfAll, elements, elementsOfAll, singleton_append] at h
  -- the container stems from what the background stems from, whose siblings are moved below it
  have hbackground : Inherits e (Scene.promotedElement e i) := fun _ hs => hs.congr rfl nofun
  have hordered := h.perm ((elementsOfAll_perm horder).symm.cons e)
  have hmoved := hordered.inherit (.cons hbackground
    (inherits_shift (-e.props.geometry.x) (-e.props.geometry.y) _))
  rw [promote, settled, elementsOfAll_node]
  exact hmoved.inherit (.cons (inherits_refl _) (inherits_settle i.flow _))

theorem bears_container {s : Source α} {e : Element α} {l : ContainerLayout α}
    {gs : List (Figure α)} {declared : Bool} {f : Figure α} (hs : s.Stems e) (ih : Bears ss (elementsOfAll gs)) (hfit : EveryOf (IsFit o) gs)
    (hstep : ContainerStep o declared e l gs f) : Bears (s :: ss) (elementsOfAll [f]) := by
  have hrewritten : ∀ {k : Kind α}, k ≠ .boolean → s.Stems { e with kind := k } := fun hk =>
    hs.congr rfl fun hb => absurd hb hk
  cases hstep with
  | empty => exact .cons (hrewritten nofun) (.nil _)
  | kept => exact bears_settled hs ih
  | flowing _ _ _ _ _ horder =>
    exact bears_settled (hrewritten nofun) (ih.perm (elementsOfAll_perm horder).symm)
  | promoted b rest hcs _ _ _ hprom _ horder =>
    subst hcs
    exact bears_settled (hrewritten nofun) (bears_promote ih hfit.1 hprom horder)

theorem bears_group {s : Source α} {e : Element α} {gs : List (Figure α)} {r : Option (Figure α)}
    (hs : s.Stems e) (ih : Bears ss (elementsOfAll gs)) (hfit : EveryOf (IsFit o) gs)
    (hstep : GroupStep o e gs r) : Bears (s :: ss) (elementsOfAll r.toList) := by
  cases hstep with
  | empty => exact .nil _
  | single f hcs =>
    subst hcs
    exact (ih.inherit (inherits_shift_one _ _ f)).skip s
  | promoted b rest hcs _ _ hprom _ horder =>
    subst hcs
    exact ((bears_promote ih hfit.1 hprom horder).inherit (inherits_shift_one _ _ _)).skip s
  | kept =>
    rw [Option.toList_some, elementsOfAll_node]
    exact .cons hs ih

end Figure

namespace Source

theorem stems_snapshot {d : Draft α} {cs : List (Source α)} {e : Element α}
    (he : d.snapshot = some e) : (node d cs).Stems e :=
  ⟨e, he, Props.agreeButPlace_refl _, fun h => h⟩

theorem bears_induction (o : NormalizeOptions α) :
    Induction o fun ss fs => Bears (survivorsOfAll ss) (Figure.elementsOfAll fs) where
  nil := .nil _
  append := fun hs hss => by
    rw [survivorsOfAll_cons, Figure.elementsOfAll_append]
    exact hs.append hss
  omitted := fun _ => .nil _
  leaf := fun hkept hk he => by
    rw [survivorsOfAll_leaf hkept hk, Figure.elementsOfAll_node]
    exact .cons (stems_snapshot he) (.nil _)
  container := fun {d cs f} hkept hk ih hstep => by
    rw [survivorsOfAll_container hkept hk]
    exact Figure.bears_container (stems_snapshot (Draft.snapshot_container hk)) ih
      (Figure.isFit_figures o cs) hstep
  group := fun {d cs r} hkept hk ih hstep => by
    rw [survivorsOfAll_group hkept hk]
    exact Figure.bears_group (stems_snapshot (Draft.snapshot_group hk)) ih
      (Figure.isFit_figures o cs) hstep

end Source

/-! ## The arena of a run -/

namespace Scene

omit [Scalar α] [Circular α] in
mutual

theorem elements_figure (p : Option Nat) : ∀ s : Scene α,
    s.figure.elements = (slots p s).map (·.2.element)
  | node i e cs => by
    rw [figure, Figure.elements, slots, elementsOfAll_figures (some i) cs, map_cons]

theorem elementsOfAll_figures (p : Option Nat) : ∀ ss : List (Scene α),
    Figure.elementsOfAll (figures ss) = (slotsOfAll p ss).map (·.2.element)
  | [] => rfl
  | s :: ss => by
    rw [figures, Figure.elementsOfAll, slotsOfAll, elements_figure p s, elementsOfAll_figures p ss,
      map_append]

end

end Scene

namespace Arena

/-- The reachable slots are these, each once, and hold what the sources have become. -/
structure StemsFrom (a : Arena α) (ss : List (Source α)) (is : List Nat) : Prop where
  nodup : is.Nodup
  mem_iff : ∀ i, i ∈ is ↔ a.Reachable i
  stems : Forall₂ (fun s i => ∃ t, a.get? i = some t ∧ s.Stems t.element) ss is

variable {a : Arena α}

theorem Holds.exists_stemsFrom {scenes : List (Scene α)} (h : a.Holds scenes)
    {ss : List (Source α)} (hy : Source.Bears ss (Figure.elementsOfAll (Scene.figures scenes))) :
    ∃ ss' is, ss' <+ ss ∧ a.StemsFrom ss' is := by
  rw [Scene.elementsOfAll_figures none] at hy
  obtain ⟨ss', hss, hpairs⟩ := hy
  obtain ⟨is, hstems, hperm⟩ := hpairs.comp
    (T := fun s i => ∃ t, a.get? i = some t ∧ s.Stems t.element)
    (fun s e i hs ⟨t, ht, he⟩ => ⟨t, ht, he ▸ hs⟩) (h.forall₂_slots (Subset.refl _))
  refine ⟨ss', is, hss, ?_, fun i => ?_, hstems⟩
  · rw [hperm.nodup_iff, Scene.slotsOfAll_numbers]
    exact h.nodup
  · rw [hperm.mem_iff, Scene.slotsOfAll_numbers]
    refine ⟨fun hi => ?_, h.mem_of_reachable⟩
    obtain ⟨t, ht⟩ := (Scene.mem_numbersOfAll_iff none).1 hi
    exact (h.mem_slots_iff.1 ht).1

/-- **Elements stem from survivors,** each from one of its own. -/
theorem exists_stemsFrom (o : NormalizeOptions α) (ss : List (Source α)) :
    ∃ ss' is, ss' <+ Source.survivorsOfAll ss ∧ (restructure o ss).StemsFrom ss' is := by
  apply (restructure_holds o ss).exists_stemsFrom
  rw [Scene.figures_eq_map, Source.buildAll_figures]
  exact (Source.bears_induction o).all ss

end Arena

end Artboard
