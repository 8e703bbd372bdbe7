import Artboard.Normal.Restructure
import Artboard.Proofs.Backgrounds
import Mathlib.Data.List.Basic

/-!
# The order inference tells

A detection sorts boxes but neither loses nor repeats one, so an inferred order lists every child
but the background once. The background is always the child painted first.
-/

open List

namespace Artboard

section
variable {β : Type}

theorem ne_nil_of_perm {l l' : List β} (h : l ~ l') (hl : l' ≠ []) : l ≠ [] := by
  rintro rfl
  exact hl h.nil_eq.symm

theorem filterMap_range_getElem? : ∀ l : List β, (List.range l.length).filterMap (l[·]?) = l
  | [] => rfl
  | a :: l => by
    rw [length_cons, List.range_succ_eq_map, filterMap_cons, getElem?_cons_zero, filterMap_map]
    simpa [Function.comp_def] using filterMap_range_getElem? l

theorem filterMap_getElem?_perm {l : List β} {order : List Nat} (h : order ~ List.range l.length) :
    order.filterMap (l[·]?) ~ l := by
  have := h.filterMap (l[·]?)
  rwa [filterMap_range_getElem?] at this

theorem filterMap_getElem?_perm_tail {b : β} {l : List β} {order : List Nat}
    (h : order ~ (List.range (b :: l).length).tail) : order.filterMap ((b :: l)[·]?) ~ l := by
  have := h.filterMap ((b :: l)[·]?)
  rw [length_cons, List.range_succ_eq_map, tail_cons, filterMap_map] at this
  simpa [Function.comp_def, filterMap_range_getElem?] using this

end

namespace Detection

variable {α : Type}

theorem place_indices (boxes : List (Box α)) :
    (place boxes).map (·.1) = List.range boxes.length := by
  rw [List.range_eq_range', ← List.zipIdx_map_snd 0 boxes, place, map_map]
  rfl

theorem map_place (boxes : List (Box α)) : (place boxes).map (·.2) = boxes := by
  rw [place, map_map]
  exact zipIdx_map_fst 0 boxes

/-! ## Boxes mapped at their places -/

section
variable (f : Box α → Box α)

theorem place_map (boxes : List (Box α)) :
    place (boxes.map f) = (place boxes).map (Prod.map id f) := by
  rw [place, place, zipIdx_map, map_map, map_map]
  rfl

theorem map_fst_map (l : List (Placed α)) : (l.map (Prod.map id f)).map (·.1) = l.map (·.1) := by
  rw [map_map]
  rfl

theorem map_snd_map (l : List (Placed α)) :
    (l.map (Prod.map id f)).map (·.2) = (l.map (·.2)).map f := by
  rw [map_map, map_map]
  rfl

theorem free_map [Scalar α] (l : List (Placed α)) : free (l.map (Prod.map id f)) = free l := by
  rw [free, map_fst_map]
  rfl

variable {f}

theorem place_map_items {g : Item α → Item α} (hg : ∀ i, (g i).box = f i.box)
    (items : List (Item α)) :
    place ((items.map g).map (·.box)) = (place (items.map (·.box))).map (Prod.map id f) := by
  rw [← place_map, map_map, map_map]
  exact congrArg place (map_congr_left fun i _ => hg i)

end

/-! ## Orders -/

theorem getElem?_of_mem_place {β : Type} {cs : List β} {box : β → Box α} {p : Placed α}
    (hp : p ∈ place (cs.map box)) : (cs[p.1]?).map box = some p.2 := by
  obtain ⟨q, hq, rfl⟩ := mem_map.mp hp
  have hget := mem_zipIdx_iff_getElem?.mp hq
  rwa [getElem?_map] at hget

theorem ofPlaced_order_perm [Scalar α] (t : Tolerances α) (l : List (Placed α)) :
    (ofPlaced t l).order ~ l.map (·.1) := by
  unfold ofPlaced
  split
  · exact Perm.refl _
  · simp only
    split
    · exact (mergeSort_perm ..).map _
    · exact (mergeSort_perm ..).map _
    · exact Perm.refl _

theorem ofPlaced_eq_free [Scalar α] {t : Tolerances α} {l : List (Placed α)}
    (h : (ofPlaced t l).flow.isFlow = false) : ofPlaced t l = free l := by
  unfold ofPlaced at h ⊢
  split
  · rfl
  · rename_i htwo
    rw [if_neg htwo] at h
    simp only at h ⊢
    split at h
    · cases h
    · cases h
    · rfl

theorem ofPlaced_order_of_free [Scalar α] {t : Tolerances α} {l : List (Placed α)}
    (h : (ofPlaced t l).flow.isFlow = false) : (ofPlaced t l).order = l.map (·.1) :=
  congrArg order (ofPlaced_eq_free h)

end Detection

namespace Inference

variable {α : Type} [Scalar α] (t : Tolerances α)

theorem promoted_ofItems (items : List (Item α)) :
    (ofItems t items).promoted = background t items := by
  unfold ofItems
  split <;> simp [ofMembers, *]

/-! ## Children beside a background -/

/-- The children beside a background, measured from it. -/
def members (a : Item α) (rest : List (Item α)) : List (Placed α) :=
  (Detection.place ((a :: rest).map (·.box))).tail.map
    fun p => (p.1, p.2.shift (-a.box.x) (-a.box.y))

theorem ofItems_of_no_background {items : List (Item α)} (h : background t items = none) :
    ofItems t items =
      ofMembers t none (fun _ => default) (Detection.place (items.map (·.box))) := by
  rw [ofItems, h]

section
variable {a : Item α} {rest : List (Item α)}

theorem ofItems_of_background (h : background t (a :: rest) = some 0) :
    ofItems t (a :: rest) = ofMembers t (some 0) (paddingOf a.box) (members a rest) := by
  rw [ofItems, h, members, ← eraseIdx_zero]
  rfl

theorem members_indices : (members a rest).map (·.1) = (List.range (a :: rest).length).tail := by
  have hplaced := Detection.place_indices ((a :: rest).map (·.box))
  rw [length_map] at hplaced
  rw [members, map_map, ← hplaced, ← map_tail]
  rfl

theorem members_boxes :
    (members a rest).map (·.2) = rest.map fun c => c.box.shift (-a.box.x) (-a.box.y) := by
  have hplaced := congrArg tail (Detection.map_place ((a :: rest).map (·.box)))
  rw [← map_tail, map_cons, tail_cons] at hplaced
  have hshifted := congrArg (map fun b => b.shift (-a.box.x) (-a.box.y)) hplaced
  rw [map_map, map_map] at hshifted
  rw [members, map_map]
  exact hshifted

theorem getElem?_of_mem_members {p : Placed α} (hp : p ∈ members a rest) :
    ((a :: rest)[p.1]?).map (fun c => c.box.shift (-a.box.x) (-a.box.y)) = some p.2 := by
  obtain ⟨q, hq, rfl⟩ := mem_map.mp hp
  have hbox := Detection.getElem?_of_mem_place (mem_of_mem_tail hq)
  obtain ⟨c, hc, hbox⟩ := Option.map_eq_some_iff.mp hbox
  simp only [hc, Option.map_some, hbox]

theorem members_map {f k : Box α → Box α} {g : Item α → Item α} (hg : ∀ i, (g i).box = f i.box)
    (hf : ∀ b, (f b).shift (-(f a.box).x) (-(f a.box).y) =
      k (b.shift (-a.box.x) (-a.box.y))) :
    members (g a) (rest.map g) = (members a rest).map (Prod.map id k) := by
  rw [members, members, ← map_cons, Detection.place_map_items hg, ← map_tail, map_map, map_map, hg]
  exact map_congr_left fun p _ => Prod.ext rfl (hf p.2)

end

/-! ## What is picked -/

theorem order_append_promoted_perm (items : List (Item α)) :
    (ofItems t items).order ++ (ofItems t items).promoted.toList ~ List.range items.length := by
  rw [promoted_ofItems]
  rcases background_cases t items with hb | ⟨a, rest, rfl, hb⟩
  · rw [ofItems_of_no_background t hb, hb, Option.toList_none, append_nil]
    refine (Detection.ofPlaced_order_perm t _).trans ?_
    rw [Detection.place_indices, length_map]
  · rw [ofItems_of_background t hb, hb]
    refine ((Detection.ofPlaced_order_perm t _).append_right _).trans ?_
    rw [members_indices, length_cons, List.range_succ_eq_map, tail_cons]
    exact perm_append_singleton 0 _

theorem order_perm_of_no_background {items : List (Item α)}
    (h : (ofItems t items).promoted = none) :
    (ofItems t items).order ~ List.range items.length := by
  have hall := order_append_promoted_perm t items
  rwa [h, Option.toList_none, append_nil] at hall

theorem order_perm_of_background {items : List (Item α)}
    (h : (ofItems t items).promoted = some 0) :
    (ofItems t items).order ~ (List.range items.length).tail := by
  rw [promoted_ofItems] at h
  cases items with
  | nil => cases h
  | cons a rest =>
    rw [ofItems_of_background t h, ← members_indices]
    exact Detection.ofPlaced_order_perm t _

theorem lt_of_mem_order {items : List (Item α)} {k : Nat} (hk : k ∈ (ofItems t items).order) :
    k < items.length :=
  mem_range.mp ((order_append_promoted_perm t items).mem_iff.mp (mem_append_left _ hk))

section
variable {β : Type} (item : β → Item α) (cs : List β)

theorem background_map_cases : background t (cs.map item) = none ∨
    ∃ b rest, cs = b :: rest ∧ background t ((b :: rest).map item) = some 0 := by
  rcases background_cases t (cs.map item) with hb | ⟨a, rest, hcs, hb⟩
  · exact .inl hb
  · obtain ⟨b, rest', rfl, _⟩ := map_eq_cons_iff.mp hcs
    exact .inr ⟨b, rest', rfl, hcs ▸ hb⟩

theorem isSome_promoted : (ofItems t (cs.map item)).promoted.isSome =
    ((ofItems t (cs.map item)).promoted.bind (cs[·]?)).isSome := by
  rw [promoted_ofItems]
  rcases background_map_cases t item cs with hb | ⟨b, rest, rfl, hb⟩
  · rw [hb]
    rfl
  · rw [hb]
    rfl

end

/-- Of the things whose items are looked at, the order picks all if there is no background, and all
but the first if that is one. -/
theorem picks_cases {β : Type} (item : β → Item α) (cs : List β) {i : Inference α}
    (hi : i = ofItems t (cs.map item)) :
    (i.promoted.bind (cs[·]?) = none ∧ i.order.filterMap (cs[·]?) ~ cs) ∨
      ∃ b rest, cs = b :: rest ∧ rest ≠ [] ∧ (item b).promotable = true ∧
        i.promoted.bind (cs[·]?) = some b ∧ i.order.filterMap (cs[·]?) ~ rest := by
  subst hi
  -- only the first can be the background, so the order runs over the others
  rcases background_map_cases t item cs with hb | ⟨b, rest, rfl, hb⟩
  · left
    have hnone := (promoted_ofItems t _).trans hb
    have horder := order_perm_of_no_background t hnone
    rw [length_map] at horder
    exact ⟨by rw [hnone]; rfl, filterMap_getElem?_perm horder⟩
  · right
    have hsome := (promoted_ofItems t _).trans hb
    have horder := order_perm_of_background t hsome
    rw [length_map] at horder
    obtain ⟨_, hne, hpromotable, _⟩ := background_cons_eq_some_iff.mp hb
    refine ⟨b, rest, rfl, ?_, hpromotable, ?_, filterMap_getElem?_perm_tail horder⟩
    · rintro rfl
      exact hne rfl
    · rw [hsome]
      rfl

theorem picks_of_free {β : Type} (item : β → Item α) (cs : List β) {i : Inference α}
    (hi : i = ofItems t (cs.map item)) (hfree : i.flow.isFlow = false) :
    i.order.filterMap (cs[·]?) = if i.promoted = none then cs else cs.tail := by
  subst hi
  rw [promoted_ofItems]
  rcases background_map_cases t item cs with hb | ⟨b, rest, rfl, hb⟩
  · rw [ofItems_of_no_background t hb] at hfree ⊢
    have horder := Detection.ofPlaced_order_of_free hfree
    rw [Detection.place_indices, length_map, length_map] at horder
    rw [if_pos hb, ofMembers, horder]
    exact filterMap_range_getElem? cs
  · rw [map_cons] at hb hfree ⊢
    rw [ofItems_of_background t hb] at hfree ⊢
    have horder := Detection.ofPlaced_order_of_free hfree
    rw [members_indices, length_cons, length_map, List.range_succ_eq_map, tail_cons] at horder
    rw [hb, if_neg nofun, ofMembers, horder, filterMap_map]
    simpa [Function.comp_def] using filterMap_range_getElem? rest

end Inference

end Artboard
