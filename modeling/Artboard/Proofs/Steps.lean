import Artboard.Proofs.Storage

/-!
# Rewrites in place

A step that rewrites an arena finds every slot and every child it looks for, if the arena shows the
scenes the step is about. It leaves the arena showing what the rewrite makes of these scenes.
-/

open List

namespace Artboard

namespace Run

variable {α β γ : Type}

/-! ## Steps that read no context -/

theorem bind_apply (x : Run α β) (f : β → Run α γ) (p : Progress α) :
    (x >>= f) p = match x p with
      | (.ok r, p') => f r p'
      | (.error e, p') => (.error e, p') := by
  change (match x p with
    | (outcome, p') => ExceptT.bindCont f outcome p') = _
  obtain ⟨outcome, p'⟩ := x p
  cases outcome <;> rfl

/-- From the arena `a` the step gives `r` and leaves `a'`, whatever the context. -/
def Yields (x : Run α β) (a : Arena α) (r : β) (a' : Arena α) : Prop :=
  ∀ c, x ⟨a, c⟩ = (.ok r, ⟨a', c⟩)

section
variable {a a' a'' : Arena α} {r : β} {r' : γ} {x : Run α β}

theorem yields_pure (r : β) (a : Arena α) : (pure r : Run α β).Yields a r a := fun _ => rfl

theorem Yields.bind {f : β → Run α γ} (h : x.Yields a r a') (h' : (f r).Yields a' r' a'') :
    (x >>= f).Yields a r' a'' := by
  intro c
  rw [bind_apply, h c]
  exact h' c

variable {i : Nat} {s : Slot α}

theorem yields_node (h : a.get? i = some s) : (node i).Yields a s a := by
  intro c
  rw [node, Arena.get, h]
  rfl

theorem yields_store (a : Arena α) (s : Slot α) : (store s).Yields a a.size (a.store s) :=
  fun _ => rfl

theorem yields_change (h : a.get? i = some s) (f : Slot α → Slot α) :
    (change i f).Yields a () (a.modify i f) :=
  (yields_node h).bind fun _ => rfl

theorem yields_pick {children : List Nat} {k c : Nat} (h : children[k]? = some c) (a : Arena α) :
    (pick children k).Yields a c a := by
  intro _
  rw [pick, h]
  rfl

end

theorem yields_attach {parent child : Nat} {s t : Slot α} {a : Arena α}
    (hs : a.get? parent = some s) (ht : a.get? child = some t) : (attach parent child).Yields a ()
      ((a.modify child fun u => { u with parent := some parent }).pushChild parent child) := by
  intro c
  simp only [attach, Arena.attach, Arena.get, hs, ht]
  rfl

end Run

/-! ## Settling -/

namespace Scene

variable {α : Type}

theorem mapElement_toSlot (g : Element α → Element α) (p : Option Nat) (s : Scene α) :
    (s.toSlot p).mapElement g = (s.mapElement g).toSlot p := by
  cases s
  rfl

theorem settled_of_isFlow_eq_false [Scalar α] {e : Element α} (h : e.flow.isFlow = false) (i : Nat)
    (kids : List (Scene α)) : settled i e kids = node i e kids := by
  have hsettle : mapElement (Element.settle (α := α) e.flow) = id := by
    funext s
    cases s
    exact congrArg (node _ · _) (Element.settle_of_isFlow_eq_false h _)
  rw [settled, hsettle, map_id]

end Scene

namespace Arena

variable {α : Type}

/-- The scenes hang below the slot `i`, which holds `e` and is a child of `p`. -/
structure Hangs (a : Arena α) (p : Option Nat) (i : Nat) (e : Element α) (kids : List (Scene α)) :
    Prop where
  get?_eq : a.get? i = some ⟨e, p, kids.map Scene.slot⟩
  shows : a.Shows (some i) kids
  nodup : (i :: Scene.numbersOfAll kids).Nodup

/-- Between two arenas only slots in hand have changed, and the ledger has been kept. -/
structure Advances (hand : List Nat) (a : Arena α) (l : Ledger α) (a' : Arena α) (l' : Ledger α) :
    Prop where
  sameOff : SameOff hand a a'
  mirrors : a'.Mirrors l'
  suffix : l.abandoned <:+ l'.abandoned

theorem Hangs.ne_slot {a : Arena α} {p : Option Nat} {i : Nat} {e : Element α}
    {kids : List (Scene α)} (h : a.Hangs p i e kids) {s : Scene α} (hs : s ∈ kids) :
    i ≠ s.slot := by
  rintro rfl
  exact (nodup_cons.mp h.nodup).1 ((Scene.map_slot_sublist kids).subset (mem_map_of_mem hs))

namespace Advances

variable {hand hand' : List Nat} {a a' a'' : Arena α} {l l' l'' : Ledger α}

theorem refl (hand : List Nat) (hm : a.Mirrors l) : Advances hand a l a l :=
  ⟨SameOff.refl hand a, hm, suffix_refl _⟩

theorem trans (h : Advances hand a l a' l') (h' : Advances hand' a' l' a'' l'')
    (hsub : ∀ j ∈ hand', j < a.size → j ∈ hand) : Advances hand a l a'' l'' :=
  ⟨h.sameOff.trans h'.sameOff hsub, h'.mirrors, h.suffix.trans h'.suffix⟩

theorem of_sameOff (hm : a.Mirrors l) (hsame : SameOff hand a a') (hsize : a'.size = a.size)
    (hfree : ∀ j ∈ hand, j ∉ l.numbers) : Advances hand a l a' l :=
  ⟨hsame, ⟨hsize.trans hm.size_eq, hm.sameOff hsame hfree⟩, suffix_refl _⟩

theorem abandon (h : Advances hand a l a' l') {i : Nat} {s : Slot α} (hs : a'.get? i = some s) :
    Advances hand a l a' { l' with abandoned := (i, s) :: l'.abandoned } :=
  ⟨h.sameOff, ⟨h.mirrors.size_eq, forall_mem_cons.mpr ⟨hs, h.mirrors.get?_eq⟩⟩,
    h.suffix.trans (suffix_cons _ _)⟩

theorem store (hm : a.Mirrors l) (s : Slot α) :
    Advances [] a l (a.store s) { l with next := l.next + 1 } := by
  have hsame := a.sameOff_store [] s
  refine ⟨hsame, ⟨?_, hm.sameOff hsame nofun⟩, suffix_refl _⟩
  rw [size_store, hm.size_eq]

theorem modify (hm : a.Mirrors l) {i : Nat} (hi : i ∉ l.numbers) (hhand : i ∈ hand)
    (f : Slot α → Slot α) : Advances hand a l (a.modify i f) l := by
  have hfree := hm.sameOff (a.sameOff_modify (mem_singleton_self i) f)
    fun _ hj => mem_singleton.mp hj ▸ hi
  exact ⟨a.sameOff_modify hhand f, ⟨(size_modify ..).trans hm.size_eq, hfree⟩, suffix_refl _⟩

end Advances

theorem Hangs.modify {a : Arena α} {p p' : Option Nat} {i : Nat} {e e' : Element α}
    {listed : List Nat} {kids : List (Scene α)} {f : Slot α → Slot α}
    (hi : a.get? i = some ⟨e, p, listed⟩) (hkids : a.Shows (some i) kids)
    (hnodup : (i :: Scene.numbersOfAll kids).Nodup)
    (hf : f ⟨e, p, listed⟩ = ⟨e', p', kids.map Scene.slot⟩) :
    (a.modify i f).Hangs p' i e' kids where
  get?_eq := by rw [get?_modify, if_pos rfl, hi, Option.map_some, hf]
  shows := by
    refine hkids.sameOff (a.sameOff_modify (mem_singleton_self i) f) fun j hj hji => ?_
    rw [mem_singleton.mp hji] at hj
    exact (nodup_cons.mp hnodup).1 hj
  nodup := hnodup

end Arena

namespace Run

open Scene

variable {α : Type} [Scalar α]

theorem settleEach_yields (flow : Flow) : ∀ {is : List Nat} {a : Arena α}, is.Nodup →
    (∀ i ∈ is, ∃ s, a.get? i = some s) →
      ∃ a', (settleEach flow is).Yields a () a' ∧ a'.size = a.size ∧ Arena.SameOff is a a' ∧
        ∀ i ∈ is, a'.get? i = (a.get? i).map (Slot.mapElement (Element.settle flow))
  | [], a, _, _ => ⟨a, yields_pure () a, rfl, Arena.SameOff.refl [] a, nofun⟩
  | i :: is, a, hnodup, hget => by
    obtain ⟨s, hs⟩ := hget i mem_cons_self
    obtain ⟨hi, his⟩ := nodup_cons.mp hnodup
    have hne : ∀ j ∈ is, j ∉ [i] := fun j hj hji => hi (mem_singleton.mp hji ▸ hj)
    have hget' : ∀ j ∈ is, ∃ t, (a.modify i (Slot.mapElement (Element.settle flow))).get? j =
        some t := by
      intro j hj
      obtain ⟨t, ht⟩ := hget j (mem_cons_of_mem _ hj)
      exact ⟨t, (a.sameOff_modify (mem_singleton_self i) _).get?_of_some ht (hne j hj)⟩
    obtain ⟨a', hyields, hsize, hsame, heq⟩ := settleEach_yields flow his hget'
    refine ⟨a', (yields_change hs _).bind hyields, hsize.trans (Arena.size_modify ..), ?_, ?_⟩
    · exact (a.sameOff_modify mem_cons_self _).trans hsame fun j hj _ => mem_cons_of_mem _ hj
    · rw [forall_mem_cons]
      refine ⟨?_, fun j hj => ?_⟩
      · rw [hsame.get?_eq i (by rw [Arena.size_modify]; exact Arena.get?_lt hs) hi,
          Arena.get?_modify, if_pos rfl]
      · rw [heq j hj, Arena.get?_modify, if_neg fun h => hne j hj (mem_singleton.mpr h)]

theorem settle_shows {a : Arena α} {p : Option Nat} {i : Nat} {e : Element α}
    {kids : List (Scene α)} (h : a.Hangs p i e kids) :
    ∃ a', (settle i).Yields a () a' ∧ a'.size = a.size ∧
      Arena.SameOff (kids.map slot) a a' ∧ a'.Shows p [settled i e kids] := by
  obtain ⟨hi, hkids⟩ := nodup_cons.mp h.nodup
  have hi' : i ∉ kids.map slot := fun hmem => hi ((map_slot_sublist kids).subset hmem)
  unfold settle
  -- only below a flow are there sizings to settle
  cases hflow : e.flow.isFlow with
  | false =>
    refine ⟨a, (yields_node h.get?_eq).bind ?_, rfl, Arena.SameOff.refl _ a, ?_⟩
    · rw [hflow]
      exact yields_pure () a
    · rw [settled_of_isFlow_eq_false hflow, Arena.shows_singleton]
      exact ⟨h.get?_eq, h.shows⟩
  | true =>
    have hslots : (kids.map slot).Nodup := hkids.sublist (map_slot_sublist kids)
    have hget : ∀ j ∈ kids.map slot, ∃ s, a.get? j = some s := by
      intro j hj
      obtain ⟨s, hs, rfl⟩ := mem_map.mp hj
      exact ⟨_, h.shows.get?_slot hs⟩
    obtain ⟨a', hyields, hsize, hsame, heq⟩ := settleEach_yields e.flow hslots hget
    refine ⟨a', (yields_node h.get?_eq).bind ?_, hsize, hsame, ?_⟩
    · rw [hflow]
      exact hyields
    · rw [settled, Arena.shows_singleton]
      refine ⟨?_, h.shows.moved hkids (fun s hs => ?_) fun j hj _ => hsame.get?_eq j hj⟩
      · rw [slot, toSlot, children, element, map_slot_mapElement]
        exact hsame.get?_of_some h.get?_eq hi'
      · rw [heq _ (mem_map_of_mem hs), h.shows.get?_slot hs, Option.map_some, mapElement_toSlot]
        rfl

/-! ## Promoting -/

theorem hang_yields {a : Arena α} {m child : Nat} {e : Element α} {p : Option Nat}
    {listed : List Nat} {t : Slot α} (dx dy : α) (hm : a.get? m = some ⟨e, p, listed⟩)
    (ht : a.get? child = some t) (hne : child ≠ m) :
    ∃ a', (hang m child dx dy).Yields a () a' ∧ a'.size = a.size ∧ Arena.SameOff [m, child] a a' ∧
      a'.get? m = some ⟨e, p, listed ++ [child]⟩ ∧
      a'.get? child = some ⟨t.element.shift dx dy, some m, t.children⟩ := by
  have hm₁ : (a.modify child (Slot.mapElement fun e => e.shift dx dy)).get? m =
      some ⟨e, p, listed⟩ := by
    rw [Arena.get?_modify, if_neg hne.symm, hm]
  have ht₁ : (a.modify child (Slot.mapElement fun e => e.shift dx dy)).get? child =
      some (t.mapElement fun e => e.shift dx dy) := by
    rw [Arena.get?_modify, if_pos rfl, ht]
    rfl
  refine ⟨_, (yields_change ht _).bind (yields_attach hm₁ ht₁), ?_, ⟨rfl, ?_, ?_⟩, ?_, ?_⟩
  · simp [Arena.pushChild]
  · simp [Arena.pushChild]
  · intro j _ hj
    simp only [mem_cons, not_or] at hj
    simp only [Arena.pushChild, Arena.get?_modify, if_neg hj.1, if_neg hj.2.1]
  · simp only [Arena.pushChild, Arena.get?_modify, if_pos, if_neg hne.symm, hm, Option.map_some]
  · simp only [Arena.pushChild, Arena.get?_modify, if_pos, if_neg hne, ht, Option.map_some]
    rfl

theorem adopt_yields {m : Nat} {e : Element α} {p : Option Nat} (dx dy : α)
    (kids : List (Scene α)) : ∀ {order : List Nat} {a : Arena α} {listed : List Nat},
      (∀ k ∈ order, k < kids.length) → (m :: (inOrder kids order).map slot).Nodup →
        (∀ s ∈ inOrder kids order, ∃ t, a.get? s.slot = some t) →
          a.get? m = some ⟨e, p, listed⟩ →
            ∃ a', (adopt m dx dy (kids.map slot) order).Yields a () a' ∧ a'.size = a.size ∧
              Arena.SameOff (m :: (inOrder kids order).map slot) a a' ∧
              a'.get? m = some ⟨e, p, listed ++ (inOrder kids order).map slot⟩ ∧
              ∀ j ∈ (inOrder kids order).map slot, a'.get? j =
                (a.get? j).map fun t => ⟨t.element.shift dx dy, some m, t.children⟩
  | [], a, listed, _, _, _, hm => by
    refine ⟨a, yields_pure () a, rfl, Arena.SameOff.refl _ a, ?_, nofun⟩
    rw [hm]
    simp [inOrder]
  | k :: order, a, listed, hlt, hnodup, hget, hm => by
    obtain ⟨s, hs⟩ : ∃ s, kids[k]? = some s := ⟨_, getElem?_eq_getElem (hlt k mem_cons_self)⟩
    have hcons : inOrder kids (k :: order) = s :: inOrder kids order := filterMap_cons_some hs
    have hpick : (kids.map slot)[k]? = some s.slot := by rw [getElem?_map, hs]; rfl
    rw [hcons, map_cons] at hnodup ⊢
    rw [hcons, forall_mem_cons] at hget
    simp only [nodup_cons, mem_cons, not_or] at hnodup
    obtain ⟨⟨hne, hnot⟩, hnot', hnodup'⟩ := hnodup
    obtain ⟨⟨t, ht⟩, hget'⟩ := hget
    obtain ⟨a₁, hyields₁, hsize₁, hsame₁, hm₁, ht₁⟩ := hang_yields dx dy hm ht (Ne.symm hne)
    -- the slots still to be hung are others than the two just changed
    have hoff : ∀ j ∈ (inOrder kids order).map slot, j ∉ [m, s.slot] := by
      intro j hj hmem
      rcases mem_pair.mp hmem with rfl | rfl
      · exact hnot hj
      · exact hnot' hj
    have hget₁ : ∀ u ∈ inOrder kids order, ∃ t, a₁.get? u.slot = some t := by
      intro u hu
      obtain ⟨v, hv⟩ := hget' u hu
      exact ⟨v, hsame₁.get?_of_some hv (hoff _ (mem_map_of_mem hu))⟩
    obtain ⟨a', hyields, hsize, hsame, hm', heq⟩ := adopt_yields dx dy kids
      (fun j hj => hlt j (mem_cons_of_mem _ hj)) (nodup_cons.mpr ⟨hnot, hnodup'⟩) hget₁ hm₁
    refine ⟨a', (yields_pick hpick a).bind (hyields₁.bind hyields), hsize.trans hsize₁, ?_, ?_, ?_⟩
    · refine (hsame₁.mono fun j hj _ => ?_).trans hsame fun j hj _ => ?_
      · rcases mem_pair.mp hj with rfl | rfl <;> simp
      · rcases mem_cons.mp hj with rfl | hj <;> simp [*]
    · rw [hm', append_assoc, singleton_append]
    · rw [forall_mem_cons]
      refine ⟨?_, fun j hj => ?_⟩
      · rw [ht, hsame.get?_of_some ht₁ (by simp [Ne.symm hne, hnot'])]
        rfl
      · obtain ⟨u, hu, rfl⟩ := mem_map.mp hj
        obtain ⟨v, hv⟩ := hget' u hu
        rw [heq _ hj, hv, hsame₁.get?_of_some hv (hoff _ hj)]

omit [Scalar α] in
theorem inOrder_subset (kids : List (Scene α)) (order : List Nat) : inOrder kids order ⊆ kids := by
  intro s hs
  obtain ⟨k, _, hk⟩ := mem_filterMap.mp hs
  exact mem_of_getElem? hk

theorem adopt_hangs {a : Arena α} {m : Nat} {e : Element α} {p q : Option Nat}
    {kids : List (Scene α)} {order : List Nat} (dx dy : α) (hm : a.get? m = some ⟨e, p, []⟩)
    (hkids : a.Shows q kids) (hlt : ∀ k ∈ order, k < kids.length)
    (hnodup : (m :: numbersOfAll (inOrder kids order)).Nodup) :
    ∃ a', (adopt m dx dy (kids.map slot) order).Yields a () a' ∧ a'.size = a.size ∧
      Arena.SameOff (m :: (inOrder kids order).map slot) a a' ∧
      a'.Hangs p m e ((inOrder kids order).map fun s => s.shift dx dy) := by
  obtain ⟨hnot, hmoved⟩ := nodup_cons.mp hnodup
  have hslots := hnodup.sublist ((map_slot_sublist (inOrder kids order)).cons_cons m)
  have hshows := hkids.subset (inOrder_subset kids order)
  obtain ⟨a', hyields, hsize, hsame, hm', heq⟩ := adopt_yields dx dy kids hlt hslots
    (fun s hs => ⟨_, hshows.get?_slot hs⟩) hm
  refine ⟨a', hyields, hsize, hsame, ?_, ?_, ?_⟩
  · rw [hm', nil_append, map_slot_shift]
  · refine hshows.moved hmoved (fun s hs => ?_) fun j hj hmem hslot => hsame.get?_eq j hj ?_
    · rw [heq _ (mem_map_of_mem hs), hshows.get?_slot hs, Option.map_some]
      exact congrArg some (by cases s; rfl)
    · rintro hj'
      rcases mem_cons.mp hj' with rfl | hj'
      · exact hnot hmem
      · exact hslot hj'
  · rwa [numbersOfAll_map fun s => numbers_shift s _ _]

theorem enclose_shows {a : Arena α} (i : Nat) (e : Element α) {p : Option Nat}
    {kids : List (Scene α)} {order : List Nat} {l : Ledger α} (hkids : a.Shows p kids)
    (hlt : ∀ k ∈ order, k < kids.length) (hnodup : (numbersOfAll (inOrder kids order)).Nodup)
    (hm : a.Mirrors l) (hfree : ∀ j ∈ numbersOfAll (inOrder kids order), j ∉ l.numbers) :
    ∃ a', (enclose i e (kids.map slot) order).Yields a l.next a' ∧
      a'.Shows (some i) [settled l.next e ((inOrder kids order).map fun s =>
        s.shift (-e.props.geometry.x) (-e.props.geometry.y))] ∧
      Arena.Advances (numbersOfAll (inOrder kids order)) a l a' { l with next := l.next + 1 } := by
  have hnew : (a.store ⟨e, some i, []⟩).get? a.size = some ⟨e, some i, []⟩ := by
    rw [Arena.get?_store, if_pos rfl]
  have hfresh := (hkids.subset (inOrder_subset kids order)).size_notMem
  have hkids' := hkids.sameOff (a.sameOff_store [] ⟨e, some i, []⟩) fun _ _ => not_mem_nil
  obtain ⟨a₁, hadopt, hsize₁, hsame₁, hhangs₁⟩ := adopt_hangs (-e.props.geometry.x)
    (-e.props.geometry.y) hnew hkids' hlt (nodup_cons.mpr ⟨hfresh, hnodup⟩)
  obtain ⟨a', hsettle, hsize, hsame, hshows⟩ := settle_shows hhangs₁
  have hslots := (map_slot_sublist (inOrder kids order)).subset
  -- what is stored, adopted and settled stays within the numbers of the children
  have hoff : Arena.SameOff (numbersOfAll (inOrder kids order)) a a' := by
    refine ((a.sameOff_store _ _).trans hsame₁ fun j hj hlt => ?_).trans hsame fun j hj _ => ?_
    · rcases mem_cons.mp hj with rfl | hj
      · exact absurd hlt (Nat.lt_irrefl _)
      · exact hslots hj
    · rw [map_slot_shift] at hj
      exact hslots hj
  rw [← hm.size_eq]
  refine ⟨a', (yields_store a _).bind (hadopt.bind (hsettle.bind (yields_pure _ a'))), hshows,
    hoff, ⟨?_, hm.sameOff hoff hfree⟩, suffix_refl _⟩
  rw [hsize, hsize₁, Arena.size_store]

omit [Scalar α] in
theorem bind_map_slot (kids : List (Scene α)) (inferred : Inference α) :
    inferred.promoted.bind ((kids.map slot)[·]?) = (background? kids inferred).map slot := by
  unfold background?
  cases inferred.promoted <;> simp

theorem numbers_promote (parent : Nat) (kids : List (Scene α)) (inferred : Inference α)
    (b : Scene α) (l : Ledger α) : numbersOfAll [(Scene.promote parent kids inferred b l).1] =
      l.next :: numbersOfAll (inOrder kids inferred.order) := by
  rw [numbersOfAll_singleton]
  change (settled l.next _ _).numbers = _
  rw [numbers_settled, numbersOfAll_map fun s => numbers_shift s _ _]

theorem promote_hangs {a : Arena α} {p : Option Nat} {i : Nat} {e : Element α} {b : Scene α}
    {rest : List (Scene α)} {inferred : Inference α} {l : Ledger α}
    (h : a.Hangs p i e (b :: rest)) (hb : background? (b :: rest) inferred = some b)
    (hbare : b.children = []) (hlt : ∀ k ∈ inferred.order, k < (b :: rest).length)
    (horder : inOrder (b :: rest) inferred.order ~ rest) (hm : a.Mirrors l)
    (hfree : ∀ j ∈ i :: numbersOfAll (b :: rest), j ∉ l.numbers) :
    ∃ a', (promote i ((b :: rest).map slot) inferred).Yields a l.next a' ∧
      a'.Hangs p i e [(Scene.promote i (b :: rest) inferred b l).1] ∧
      Arena.Advances (i :: numbersOfAll (b :: rest)) a l a'
        (Scene.promote i (b :: rest) inferred b l).2 := by
  have hleft : numbersOfAll (b :: rest) = b.slot :: numbersOfAll rest := by
    rw [numbersOfAll, numbers_of_children_eq_nil hbare, singleton_append]
  have hnumbers := numbersOfAll_perm horder
  have hnodup := h.nodup
  rw [hleft] at hnodup hfree ⊢
  simp only [nodup_cons, mem_cons, not_or, ← hnumbers.mem_iff, ← hnumbers.nodup_iff] at hnodup
  obtain ⟨⟨hib, hi⟩, hb', horder'⟩ := hnodup
  simp only [forall_mem_cons, ← hnumbers.mem_iff] at hfree
  obtain ⟨hifree, _, hfree'⟩ := hfree
  obtain ⟨a₁, henclose, hshows, hadvances⟩ := enclose_shows i (promotedElement b.element inferred)
    h.shows hlt horder' hm hfree'
  change a₁.Shows (some i) [(Scene.promote i (b :: rest) inferred b l).1] at hshows
  -- neither the slot above nor the background's own is among those enclosed
  have hback := h.shows.get?_slot mem_cons_self
  have hi₁ := hadvances.sameOff.get?_of_some h.get?_eq hi
  have hback₁ := hadvances.sameOff.get?_of_some hback hb'
  have hnew : l.next ∉ i :: numbersOfAll (inOrder (b :: rest) inferred.order) := by
    rw [← hm.size_eq]
    exact not_mem_cons_of_ne_of_not_mem (Nat.ne_of_gt (Arena.get?_lt h.get?_eq))
      (h.shows.subset (inOrder_subset _ _)).size_notMem
  have hnodup' : (i :: numbersOfAll [(Scene.promote i (b :: rest) inferred b l).1]).Nodup := by
    rw [numbers_promote]
    exact (Perm.swap ..).nodup_iff.mpr (nodup_cons.mpr ⟨hnew, nodup_cons.mpr ⟨hi, horder'⟩⟩)
  refine ⟨a₁.modify i fun t => { t with children := [l.next] }, ?_, .modify hi₁ hshows hnodup' rfl,
    (((Arena.Advances.refl _ hm).trans hadvances fun j hj _ => ?_).trans
      (.modify hadvances.mirrors hifree mem_cons_self _) fun j hj _ => hj).abandon ?_⟩
  · unfold promote
    rw [bind_map_slot, hb]
    exact (yields_node hback).bind (henclose.bind ((yields_change hi₁ _).bind (yields_pure _ _)))
  · exact mem_cons_of_mem i (mem_cons_of_mem _ (hnumbers.mem_iff.mp hj))
  · rw [Arena.get?_modify, if_neg (Ne.symm hib), hback₁, toSlot, hbare]
    rfl

/-! ## Inferring -/

omit [Scalar α] in
theorem items_yields {a : Arena α} {p : Option Nat} : ∀ {kids : List (Scene α)},
    (∀ s ∈ kids, a.get? s.slot = some (s.toSlot p)) →
      (items (kids.map slot)).Yields a (kids.map item) a
  | [], _ => yields_pure [] a
  | s :: kids, hget => by
    rw [forall_mem_cons] at hget
    rw [map_cons, map_cons, ← item_toSlot p s]
    exact (yields_node hget.1).bind ((items_yields hget.2).bind (yields_pure _ a))

theorem infer_yields (o : NormalizeOptions α) {a : Arena α} {p : Option Nat} {i : Nat}
    {e : Element α} {kids : List (Scene α)} (h : a.Hangs p i e kids) :
    (infer o i).Yields a (inference o kids) a :=
  (yields_node h.get?_eq).bind
    ((items_yields fun _ hs => h.shows.get?_slot hs).bind (yields_pure _ a))

omit [Scalar α] in
theorem pickAll_yields (a : Arena α) (kids : List (Scene α)) : ∀ {order : List Nat},
    (∀ k ∈ order, k < kids.length) →
      (pickAll (kids.map slot) order).Yields a ((inOrder kids order).map slot) a
  | [], _ => yields_pure [] a
  | k :: order, hlt => by
    rw [forall_mem_cons] at hlt
    obtain ⟨s, hs⟩ : ∃ s, kids[k]? = some s := ⟨_, getElem?_eq_getElem hlt.1⟩
    have hcons : inOrder kids (k :: order) = s :: inOrder kids order := filterMap_cons_some hs
    have hpick : (kids.map slot)[k]? = some s.slot := by rw [getElem?_map, hs]; rfl
    rw [hcons]
    exact (yields_pick hpick a).bind ((pickAll_yields a kids hlt.2).bind (yields_pure _ a))

omit [Scalar α] in
theorem mapLayout_of_container {s : Slot α} {l : ContainerLayout α}
    (h : s.element.kind = .container l) (f : ContainerLayout α → ContainerLayout α) :
    s.mapLayout f = ⟨{ s.element with kind := .container (f l) }, s.parent, s.children⟩ := by
  rw [Slot.mapLayout, h]
  rfl

theorem lt_of_mem_order {o : NormalizeOptions α} {kids : List (Scene α)} {k : Nat}
    (hk : k ∈ (inference o kids).order) : k < kids.length := by
  simpa using Inference.lt_of_mem_order o.tolerances hk

theorem isSome_promoted (o : NormalizeOptions α) (kids : List (Scene α)) :
    (inference o kids).promoted.isSome = (background? kids (inference o kids)).isSome :=
  Inference.isSome_promoted o.tolerances item kids

section
variable {o : NormalizeOptions α} {a : Arena α} {p : Option Nat} {i : Nat} {e : Element α}
variable {kids : List (Scene α)} {l : Ledger α}

theorem inferLayout_hangs {layout : ContainerLayout α} (h : a.Hangs p i e kids)
    (he : e.kind = .container layout) (hbare : ∀ s ∈ kids, s.IsBare) (hm : a.Mirrors l)
    (hfree : ∀ j ∈ i :: numbersOfAll kids, j ∉ l.numbers) :
    ∃ a' e' kids', (inferLayout o i).Yields a () a' ∧ a'.Hangs p i e' kids' ∧
      (inferContainer o i e layout kids l).1 = settled i e' kids' ∧
      Arena.Advances (i :: numbersOfAll kids) a l a' (inferContainer o i e layout kids l).2 := by
  have hi := hfree i mem_cons_self
  have hsome := isSome_promoted o kids
  unfold inferContainer inferLayout
  -- without a background only the order may change; with one the others move one level down
  rcases inference_cases o kids with ⟨hb, horder⟩ | ⟨b, rest, rfl, _, hprom, hb, horder⟩
  · rw [hb] at hsome ⊢
    have hnone : ¬(inference o kids).promoted.isSome = true := by rw [hsome]; nofun
    cases hflow : (inference o kids).flow.isFlow with
    | true =>
      have hpick := pickAll_yields a kids fun _ => lt_of_mem_order (o := o)
      refine ⟨_, _, inOrder kids (inference o kids).order,
        (infer_yields o h).bind ((yields_node h.get?_eq).bind (by
          rw [if_neg hnone, if_pos hflow]
          exact hpick.bind (yields_change h.get?_eq _))), ?_, rfl, ?_⟩
      · have hnodup := ((numbersOfAll_perm horder).cons i).nodup_iff.mpr h.nodup
        refine .modify h.get?_eq (h.shows.subset horder.subset) hnodup ?_
        rw [mapLayout_of_container he]
      · exact .modify hm hi mem_cons_self _
    | false =>
      refine ⟨a, e, kids, (infer_yields o h).bind ((yields_node h.get?_eq).bind ?_), h, rfl,
        .refl _ hm⟩
      rw [if_neg hnone, if_neg (by rw [hflow]; nofun)]
      exact yields_pure () a
  · rw [hb] at hsome ⊢
    have hb' := (hbare b mem_cons_self).children_eq_nil hprom
    obtain ⟨a₁, hpromote, hhangs, hadvances⟩ := promote_hangs h hb hb'
      (fun _ => lt_of_mem_order) horder hm hfree
    refine ⟨_, _, [(Scene.promote i (b :: rest) (inference o (b :: rest)) b l).1],
      (infer_yields o h).bind ((yields_node h.get?_eq).bind (by
        rw [if_pos (by rw [hsome]; rfl)]
        exact hpromote.bind (yields_change hhangs.get?_eq _))), ?_, rfl, ?_⟩
    · refine .modify hhangs.get?_eq hhangs.shows hhangs.nodup ?_
      rw [mapLayout_of_container he]
    · refine hadvances.trans (.modify hadvances.mirrors ?_ mem_cons_self _) fun j hj _ => hj
      exact not_mem_cons_of_ne_of_not_mem (h.ne_slot mem_cons_self) hi

/-! ## Containers and groups -/

theorem inferUndeclared_hangs (declared : Bool) {layout : ContainerLayout α}
    (h : a.Hangs p i e kids) (he : e.kind = .container layout) (hne : kids ≠ [])
    (hbare : ∀ s ∈ kids, s.IsBare) (hm : a.Mirrors l)
    (hfree : ∀ j ∈ i :: numbersOfAll kids, j ∉ l.numbers) :
    ∃ a' e' kids', (inferUndeclared o declared i).Yields a () a' ∧ a'.Hangs p i e' kids' ∧
      (ofContainer o declared i e kids l).1 = settled i e' kids' ∧
      Arena.Advances (i :: numbersOfAll kids) a l a' (ofContainer o declared i e kids l).2 := by
  have hempty : ¬kids.isEmpty = true := by simpa using hne
  unfold inferUndeclared ofContainer
  simp only [if_neg hempty, he]
  cases !declared && o.infer with
  | true => exact inferLayout_hangs h he hbare hm hfree
  | false => exact ⟨a, e, kids, yields_pure () a, h, rfl, .refl _ hm⟩

theorem ofContainer_spec (declared : Bool) (h : a.Hangs p i e kids) (hbare : ∀ s ∈ kids, s.IsBare)
    (hm : a.Mirrors l) (hfree : ∀ j ∈ i :: numbersOfAll kids, j ∉ l.numbers)
    (hsuffix : l.abandoned <:+ (ofContainer o declared i e kids l).2.abandoned) :
    ∀ j ∈ (ofContainer o declared i e kids l).1.numbers,
      j ∉ (ofContainer o declared i e kids l).2.numbers ∧
        (j < l.next → j ∈ i :: numbersOfAll kids) := by
  have hlt : ∀ j ∈ i :: numbersOfAll kids, j < l.next := by
    rw [← hm.size_eq, forall_mem_cons]
    exact ⟨Arena.get?_lt h.get?_eq, fun j hj => h.shows.lt hj⟩
  have hmade := ofContainer_accounts o declared i e hbare l
  exact (hmade.made_spec h.nodup (fun j hj => ⟨hlt j hj, hfree j hj⟩) (fun _ => hm.lt) hsuffix).2

theorem finishContainer_shows (declared : Bool) {layout : ContainerLayout α}
    (hi : a.get? i = some ⟨e, p, []⟩) (he : e.kind = .container layout)
    (hkids : a.Shows (some i) kids) (hnodup : (i :: numbersOfAll kids).Nodup)
    (hbare : ∀ s ∈ kids, s.IsBare) (hm : a.Mirrors l)
    (hfree : ∀ j ∈ i :: numbersOfAll kids, j ∉ l.numbers) :
    ∃ a', (finishContainer o declared p i (kids.map slot)).Yields a
        (ofContainer o declared i e kids l).1.slot a' ∧
      a'.Shows p [(ofContainer o declared i e kids l).1] ∧
      Arena.Advances (i :: numbersOfAll kids) a l a' (ofContainer o declared i e kids l).2 := by
  have hi' := hfree i mem_cons_self
  by_cases hne : kids = []
  · subst hne
    have hhangs : (a.modify i fun _ => ⟨{ e with kind := .rectangle }, p, []⟩).Hangs p i
        { e with kind := .rectangle } [] := .modify hi hkids hnodup rfl
    refine ⟨_, (yields_node hi).bind ((yields_change hi _).bind (yields_pure i _)), ?_, ?_⟩
    · exact Arena.shows_singleton.mpr ⟨hhangs.get?_eq, hhangs.shows⟩
    · exact .modify hm hi' mem_cons_self _
  · have hempty : ¬(kids.map slot).isEmpty = true := by simpa using hne
    have hlisted : (a.modify i fun t => { t with children := kids.map slot }).Hangs p i e kids :=
      .modify hi hkids hnodup rfl
    have hlist : Arena.Advances (i :: numbersOfAll kids) a l _ l :=
      .modify hm hi' mem_cons_self fun t => { t with children := kids.map slot }
    obtain ⟨a₁, e', kids', hinfer, hhangs, heq, hadvances⟩ := inferUndeclared_hangs (o := o)
      declared hlisted he hne hbare hlist.mirrors hfree
    obtain ⟨a', hsettle, hsize, hsame, hshows⟩ := settle_shows hhangs
    -- settling changes scenes in hand and, if one was made, the one that encloses them
    have hmade := ofContainer_spec declared hlisted hbare hlist.mirrors hfree hadvances.suffix
    rw [heq, numbers_settled] at hmade
    have hslots := fun j hj => mem_cons_of_mem i ((map_slot_sublist kids').subset (a := j) hj)
    have hinferred := hlist.trans hadvances fun j hj _ => hj
    rw [heq]
    refine ⟨a', ?_, hshows, ?_⟩
    · unfold finishContainer
      rw [if_neg hempty]
      exact (yields_change hi _).bind (hinfer.bind (hsettle.bind (yields_pure i a')))
    · refine hinferred.trans (.of_sameOff hinferred.mirrors hsame hsize fun j hj => ?_)
        fun j hj hlt => ?_
      · exact (hmade j (hslots j hj)).1
      · exact (hmade j (hslots j hj)).2 (hm.size_eq ▸ hlt)

theorem unwrap_shows {a : Arena α} {p q r : Option Nat} {group : Nat} {e : Element α}
    {listed : List Nat} {child : Scene α} {l : Ledger α}
    (hg : a.get? group = some ⟨e, q, listed⟩) (hchild : a.Shows r [child])
    (hnodup : (group :: numbersOfAll [child]).Nodup) (hm : a.Mirrors l)
    (hfree : child.slot ∉ l.numbers) :
    ∃ a', (unwrap group child.slot p).Yields a
        (child.shift e.props.geometry.x e.props.geometry.y).slot a' ∧
      a'.Shows p [child.shift e.props.geometry.x e.props.geometry.y] ∧
      Arena.Advances [child.slot] a l a' l ∧ a'.get? group = some ⟨e, q, listed⟩ := by
  have hget := hchild.get?_slot mem_cons_self
  have hne : group ≠ child.slot := by
    rintro rfl
    exact (nodup_cons.mp hnodup).1 ((map_slot_sublist [child]).subset mem_cons_self)
  rw [slot_shift]
  refine ⟨_, (yields_node hg).bind ((yields_change hget _).bind (yields_pure _ _)), ?_,
    .modify hm hfree mem_cons_self _, ?_⟩
  -- the child changes in place, and the slots below it do not
  · refine hchild.moved (g := fun e' => e'.shift e.props.geometry.x e.props.geometry.y)
      (nodup_cons.mp hnodup).2 ?_ fun j _ _ hslot => ?_
    · rw [forall_mem_singleton, Arena.get?_modify, if_pos rfl, hget]
      cases child
      rfl
    · rw [Arena.get?_modify, if_neg (by simpa using hslot)]
  · rw [Arena.get?_modify, if_neg hne, hg]

theorem ofGroup_of_two {kids : List (Scene α)} (h : 2 ≤ kids.length) :
    ofGroup o p i e kids = match o.infer, background? kids (inference o kids) with
      | true, some b => do
        let c ← Scene.promote i kids (inference o kids) b
        Scene.unwrap p i e [c.slot] c
      | _, _ => return some (Scene.node i e kids) := by
  match kids with
  | _ :: _ :: _ => rfl

theorem inferGroup_shows (h : a.Hangs p i e kids) (htwo : 2 ≤ kids.length)
    (hbare : ∀ s ∈ kids, s.IsBare) (hm : a.Mirrors l)
    (hfree : ∀ j ∈ i :: numbersOfAll kids, j ∉ l.numbers) :
    ∃ a', (inferGroup o p i).Yields a ((ofGroup o p i e kids l).1.map slot) a' ∧
      a'.Shows p (ofGroup o p i e kids l).1.toList ∧
      Arena.Advances (i :: numbersOfAll kids) a l a' (ofGroup o p i e kids l).2 := by
  have hsome := isSome_promoted o kids
  have hkept : a.Shows p [Scene.node i e kids] := Arena.shows_singleton.mpr ⟨h.get?_eq, h.shows⟩
  rw [ofGroup_of_two htwo]
  unfold inferGroup
  cases o.infer with
  | false => exact ⟨a, yields_pure _ a, hkept, .refl _ hm⟩
  | true =>
    rcases inference_cases o kids with ⟨hb, _⟩ | ⟨b, rest, rfl, _, hprom, hb, horder⟩
    · rw [hb] at hsome ⊢
      refine ⟨a, (infer_yields o h).bind ?_, hkept, .refl _ hm⟩
      rw [if_neg (by rw [hsome]; nofun)]
      exact yields_pure _ a
    · rw [hb] at hsome ⊢
      have hb' := (hbare b mem_cons_self).children_eq_nil hprom
      obtain ⟨a₁, hpromote, hhangs, hpromoted⟩ := promote_hangs h hb hb'
        (fun _ => lt_of_mem_order) horder hm hfree
      have hback : b.slot < a.size :=
        h.shows.lt ((map_slot_sublist (b :: rest)).subset mem_cons_self)
      -- the slot promoted into is new: no other than the background's, and not abandoned
      have hnew : l.next ∉ b.slot :: l.numbers := by
        rw [hm.size_eq] at hback
        exact not_mem_cons_of_ne_of_not_mem (Nat.ne_of_gt hback) fun hmem =>
          Nat.lt_irrefl _ (hm.lt hmem)
      obtain ⟨a', hunwrap, hshows, hadvances, hi'⟩ := unwrap_shows (p := p) hhangs.get?_eq
        hhangs.shows hhangs.nodup hpromoted.mirrors hnew
      refine ⟨a', (infer_yields o h).bind ?_, hshows, .abandon ?_ hi'⟩
      · rw [if_pos (by rw [hsome]; rfl)]
        exact (yields_node h.get?_eq).bind (hpromote.bind (hunwrap.bind (yields_pure _ a')))
      · refine hpromoted.trans hadvances fun j hj hlt => ?_
        rw [hm.size_eq, mem_singleton.mp hj] at hlt
        exact absurd hlt (Nat.lt_irrefl l.next)

theorem finishGroup_shows (hi : a.get? i = some ⟨e, p, []⟩) (hkids : a.Shows (some i) kids)
    (hnodup : (i :: numbersOfAll kids).Nodup) (hbare : ∀ s ∈ kids, s.IsBare) (hm : a.Mirrors l)
    (hfree : ∀ j ∈ i :: numbersOfAll kids, j ∉ l.numbers) :
    ∃ a', (finishGroup o p i (kids.map slot)).Yields a ((ofGroup o p i e kids l).1.map slot) a' ∧
      a'.Shows p (ofGroup o p i e kids l).1.toList ∧
      Arena.Advances (i :: numbersOfAll kids) a l a' (ofGroup o p i e kids l).2 := by
  match kids with
  | [] => exact ⟨a, yields_pure none a, a.shows_nil p, (Arena.Advances.refl _ hm).abandon hi⟩
  | [only] =>
    have hslot : only.slot ∈ i :: numbersOfAll [only] :=
      mem_cons_of_mem i ((map_slot_sublist [only]).subset mem_cons_self)
    obtain ⟨a', hunwrap, hshows, hadvances, hi'⟩ :=
      unwrap_shows hi hkids hnodup hm (hfree _ hslot) (p := p)
    refine ⟨a', hunwrap.bind (yields_pure _ a'), hshows, .abandon ?_ hi'⟩
    exact (Arena.Advances.refl _ hm).trans hadvances fun j hj _ => mem_singleton.mp hj ▸ hslot
  | s :: t :: rest =>
    have hlisted : (a.modify i fun u => { u with children := (s :: t :: rest).map slot }).Hangs p i
        e (s :: t :: rest) := .modify hi hkids hnodup rfl
    have hlist : Arena.Advances (i :: numbersOfAll (s :: t :: rest)) a l _ l :=
      .modify hm (hfree i mem_cons_self) mem_cons_self fun u =>
        { u with children := (s :: t :: rest).map slot }
    obtain ⟨a', hinfer, hshows, hadvances⟩ := inferGroup_shows (o := o) hlisted (by simp) hbare
      hlist.mirrors hfree
    exact ⟨a', (yields_change hi _).bind hinfer, hshows, hlist.trans hadvances fun j hj _ => hj⟩

end

end Run

end Artboard
