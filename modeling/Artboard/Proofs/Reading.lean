import Mathlib.Data.List.Basic

/-!
# Reading code piece by piece

What is found in generated code is what is found in the pieces, one after the other. So the pieces
can be read one by one, whatever they are joined with, as long as nothing is found in that.
-/

open List

namespace Artboard

/-- Pieces and all that is found in them. -/
inductive Each {ε β : Type} (finds : ε → List β → Prop) : List ε → List β → Prop
  | nil : Each finds [] []
  | cons {x : ε} {xs : List ε} {us vs : List β} (hx : finds x us) (hxs : Each finds xs vs) :
      Each finds (x :: xs) (us ++ vs)

namespace Each

variable {ε ι β : Type} {finds : ε → List β → Prop} {xs ys : List ε} {us vs : List β}

theorem single {x : ε} (h : finds x us) : Each finds [x] us := by
  have hcons := Each.cons h .nil
  rwa [append_nil] at hcons

theorem append (hxs : Each finds xs us) (hys : Each finds ys vs) :
    Each finds (xs ++ ys) (us ++ vs) := by
  induction hxs with
  | nil => exact hys
  | cons hx _ ih =>
    rw [cons_append, append_assoc]
    exact .cons hx ih

theorem map {finds' : ι → List β → Prop} {f : ε → ι}
    (hf : ∀ {x us}, finds x us → finds' (f x) us) (h : Each finds xs us) :
    Each finds' (xs.map f) us := by
  induction h with
  | nil => exact .nil
  | cons hx _ ih => exact .cons (hf hx) ih

theorem of_forall {f : ι → ε} {g : ι → List β} (h : ∀ i, finds (f i) (g i)) :
    ∀ is : List ι, Each finds (is.map f) (is.flatMap g)
  | [] => .nil
  | i :: is => by
    rw [map_cons, flatMap_cons]
    exact .cons (h i) (of_forall h is)

theorem intersperse {s : ε} (hs : finds s []) (h : Each finds xs us) :
    Each finds (xs.intersperse s) us := by
  induction h with
  | nil => exact .nil
  | cons hx hxs ih =>
    cases hxs with
    | nil => exact .cons hx .nil
    | cons _ _ =>
      have hspaced := cons hs ih
      rw [nil_append] at hspaced
      exact .cons hx hspaced

end Each

theorem forall_mem_intersperse {α : Type} {P : α → Prop} {s : α} (hs : P s) : ∀ {l : List α},
    (∀ x ∈ l, P x) → ∀ x ∈ l.intersperse s, P x
  | [], h => h
  | [_], h => h
  | x :: y :: l, h => by
    rw [forall_mem_cons] at h
    exact forall_mem_cons.mpr ⟨h.1, forall_mem_cons.mpr ⟨hs, forall_mem_intersperse hs h.2⟩⟩

structure IsAdditive {β : Type} (finds : List Char → List β → Prop) : Prop where
  nil : finds [] []
  append : ∀ {cs ds us vs}, finds cs us → finds ds vs → finds (cs ++ ds) (us ++ vs)

namespace IsAdditive

variable {β : Type} {finds : List Char → List β → Prop} (hfinds : IsAdditive finds)
  {ls : List String} {us : List β}
include hfinds

theorem join (h : Each (fun l : String => finds l.toList) ls us) :
    finds (String.join ls).toList us := by
  induction h with
  | nil => simpa using hfinds.nil
  | cons hl _ ih => simpa [String.toList_join] using hfinds.append hl ih

theorem intercalate {s : String} (hs : finds s.toList [])
    (h : Each (fun l : String => finds l.toList) ls us) : finds (s.intercalate ls).toList us := by
  induction h with
  | nil => simpa using hfinds.nil
  | @cons l ls us vs hl hls ih =>
    cases hls with
    | nil => simpa using hl
    | cons hm hms =>
      rw [String.intercalate_cons_cons, String.toList_append, String.toList_append]
      have hfirst := hfinds.append (hfinds.append hl hs) ih
      rwa [append_nil] at hfirst

end IsAdditive

end Artboard
