import Artboard.Json.Value
import Mathlib.Data.List.Nodup

/-!
# Merging repeated fields

Setting a field keeps the names distinct, so an object whose fields are distinct and merged already
is left as it is. Merging twice is merging once, and what was readable stays readable.
-/

open List

namespace Artboard

namespace Json

variable {key : String} {value : Json}

/-! ## Setting fields -/

theorem mem_setField {f : String × Json} :
    ∀ {l : List (String × Json)}, f ∈ setField key value l → f = (key, value) ∨ f ∈ l
  | [], h => .inl (mem_singleton.mp h)
  | (k, v) :: rest, h => by
    unfold setField at h
    split at h
    · rename_i hk
      rw [mem_cons, hk] at h
      exact h.imp_right (mem_cons_of_mem _)
    · obtain rfl | h := mem_cons.mp h
      · exact .inr mem_cons_self
      · exact (mem_setField h).imp_right (mem_cons_of_mem _)

theorem setField_of_notMem :
    ∀ {l : List (String × Json)}, key ∉ l.map (·.1) → setField key value l = l ++ [(key, value)]
  | [], _ => rfl
  | (k, v) :: rest, h => by
    obtain ⟨hk, hrest⟩ := not_or.mp (mt mem_cons.mpr h)
    rw [setField, if_neg (Ne.symm hk), setField_of_notMem hrest]
    rfl

theorem keys_setField_of_mem :
    ∀ {l : List (String × Json)}, key ∈ l.map (·.1) →
      (setField key value l).map (·.1) = l.map (·.1)
  | (k, v) :: rest, h => by
    unfold setField
    split
    · rfl
    · rename_i hk
      obtain h | h := mem_cons.mp h
      · exact absurd h.symm hk
      · rw [map_cons, keys_setField_of_mem h, map_cons]

theorem nodup_keys_setField {l : List (String × Json)} (hl : (l.map (·.1)).Nodup) :
    ((setField key value l).map (·.1)).Nodup := by
  by_cases h : key ∈ l.map (·.1)
  · rwa [keys_setField_of_mem h]
  · rw [setField_of_notMem h, map_append]
    exact hl.append (nodup_singleton key) (disjoint_singleton.mpr h)

theorem mergeInto_cons (done : List (String × Json)) (f : String × Json)
    (rest : List (String × Json)) :
    mergeInto done (f :: rest) = mergeInto (setField f.1 f.2 done) rest := rfl

theorem mem_mergeInto {f : String × Json} {fields done : List (String × Json)}
    (h : f ∈ mergeInto done fields) : f ∈ done ∨ f ∈ fields := by
  induction fields generalizing done with
  | nil => exact .inl h
  | cons g rest ih =>
    rw [mergeInto_cons] at h
    obtain h | h := ih h
    · obtain rfl | h := mem_setField h
      · exact .inr mem_cons_self
      · exact .inl h
    · exact .inr (mem_cons_of_mem g h)

theorem nodup_keys_mergeInto {fields done : List (String × Json)}
    (h : (done.map (·.1)).Nodup) : ((mergeInto done fields).map (·.1)).Nodup := by
  induction fields generalizing done with
  | nil => exact h
  | cons f rest ih =>
    rw [mergeInto_cons]
    exact ih (nodup_keys_setField h)

theorem mergeInto_of_nodup {fields done : List (String × Json)}
    (h : ((done ++ fields).map (·.1)).Nodup) : mergeInto done fields = done ++ fields := by
  induction fields generalizing done with
  | nil => exact (append_nil done).symm
  | cons f rest ih =>
    have hnew : f.1 ∉ done.map (·.1) := by
      rw [map_append, map_cons] at h
      exact fun hf => disjoint_of_nodup_append h hf mem_cons_self
    rw [append_cons] at h ⊢
    rw [mergeInto_cons, setField_of_notMem hnew, ih h]

/-! ## Merging -/

theorem mergeItems_eq_map : ∀ items, mergeItems items = items.map merge
  | [] => rfl
  | v :: rest => by rw [mergeItems, mergeItems_eq_map rest, map_cons]

theorem mergeFields_eq_map : ∀ fields, mergeFields fields = fields.map fun f => (f.1, merge f.2)
  | [] => rfl
  | (k, v) :: rest => by rw [mergeFields, mergeFields_eq_map rest, map_cons]

theorem itemsReadable_iff : ∀ {items}, itemsReadable items = true ↔ ∀ v ∈ items, isReadable v = true
  | [] => by simp [itemsReadable]
  | v :: rest => by rw [itemsReadable, Bool.and_eq_true, itemsReadable_iff, forall_mem_cons]

theorem fieldsReadable_iff : ∀ {fields}, fieldsReadable fields = true ↔
    ∀ f ∈ fields, isReadable f.2 = true
  | [] => by simp [fieldsReadable]
  | (k, v) :: rest => by
    rw [fieldsReadable, Bool.and_eq_true, fieldsReadable_iff, forall_mem_cons]

/-- Fields of distinct names whose values are merged. -/
structure IsMerged (fields : List (String × Json)) : Prop where
  nodup : (fields.map (·.1)).Nodup
  values : ∀ f ∈ fields, merge f.2 = f.2

theorem IsMerged.eq {fields : List (String × Json)} (h : IsMerged fields) :
    mergeInto [] (mergeFields fields) = fields := by
  have hvalues : mergeFields fields = fields := by
    rw [mergeFields_eq_map]
    refine (map_congr_left fun f hf => ?_).trans (map_id fields)
    rw [h.values f hf, id]
  rw [hvalues]
  exact @mergeInto_of_nodup fields [] h.nodup

theorem mem_merged {fields : List (String × Json)} {f : String × Json}
    (h : f ∈ mergeInto [] (mergeFields fields)) : ∃ g ∈ fields, f = (g.1, merge g.2) := by
  obtain h | h := mem_mergeInto h
  · exact absurd h not_mem_nil
  · rw [mergeFields_eq_map] at h
    obtain ⟨g, hg, rfl⟩ := mem_map.mp h
    exact ⟨g, hg, rfl⟩

theorem isMerged_merged {fields : List (String × Json)}
    (h : ∀ f ∈ fields, merge (merge f.2) = merge f.2) :
    IsMerged (mergeInto [] (mergeFields fields)) where
  nodup := nodup_keys_mergeInto nodup_nil
  values f hf := by
    obtain ⟨g, hg, rfl⟩ := mem_merged hf
    exact h g hg

mutual

theorem merge_merge : ∀ v, merge (merge v) = merge v
  | list items => by
    rw [merge, merge, mergeItems_eq_map, mergeItems_eq_map, map_map]
    exact congrArg list (map_congr_left (merge_merge_items items))
  | object fields => by
    rw [merge, merge, (isMerged_merged (merge_merge_fields fields)).eq]
  | null | bool _ | number _ | text _ | unreadable => rfl

theorem merge_merge_items : ∀ items : List Json, ∀ v ∈ items, merge (merge v) = merge v
  | [] => fun _ h => absurd h not_mem_nil
  | v :: rest => forall_mem_cons.mpr ⟨merge_merge v, merge_merge_items rest⟩

theorem merge_merge_fields : ∀ fields : List (String × Json), ∀ f ∈ fields,
    merge (merge f.2) = merge f.2
  | [] => fun _ h => absurd h not_mem_nil
  | (_, v) :: rest => forall_mem_cons.mpr ⟨merge_merge v, merge_merge_fields rest⟩

end

mutual

theorem isReadable_merge : ∀ {v}, isReadable v = true → isReadable (merge v) = true
  | list items, h => by
    rw [merge, isReadable, mergeItems_eq_map]
    exact itemsReadable_iff.mpr (forall_mem_map.mpr (isReadable_merge_items h))
  | object fields, h => by
    rw [merge, isReadable, fieldsReadable_iff]
    intro f hf
    obtain ⟨g, hg, rfl⟩ := mem_merged hf
    exact isReadable_merge_fields h g hg
  | null, h | bool _, h | number _, h | text _, h | unreadable, h => h

theorem isReadable_merge_items : ∀ {items}, itemsReadable items = true →
    ∀ v ∈ items, isReadable (merge v) = true
  | [], _ => fun _ h => absurd h not_mem_nil
  | v :: rest, h => by
    rw [itemsReadable, Bool.and_eq_true] at h
    exact forall_mem_cons.mpr ⟨isReadable_merge h.1, isReadable_merge_items h.2⟩

theorem isReadable_merge_fields : ∀ {fields}, fieldsReadable fields = true →
    ∀ f ∈ fields, isReadable (merge f.2) = true
  | [], _ => fun _ h => absurd h not_mem_nil
  | (_, v) :: rest, h => by
    rw [fieldsReadable, Bool.and_eq_true] at h
    exact forall_mem_cons.mpr ⟨isReadable_merge h.1, isReadable_merge_fields h.2⟩

end

end Json

end Artboard
