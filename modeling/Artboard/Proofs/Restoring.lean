import Artboard.Host.Values
import Artboard.Proofs.SoundValues

/-!
# Values restored from their writing

What is read from a sound value is read back from what is written for it. Records are written with
all their fields, in order, so every field is found again.
-/

open List

namespace Artboard

namespace Json

variable {α : Type}

/-! ## Plain values -/

section
open BinaryFloat

theorem ofFloat_eq {φ : Type} [BinaryFloat φ] {x : φ} (hx : IsFinite x) :
    ofFloat x = number (.float (convert x)) := by
  unfold ofFloat
  split
  · rename_i h
    rw [IsFinite, h] at hx
    cases hx
  · rename_i h
    rw [IsFinite, h] at hx
    cases hx
  · rfl

theorem float?_ofFloat {x : Float} (hx : IsFinite x) : float? (ofFloat x) = some x := by
  rw [ofFloat_eq hx, float?, convert_self, convert_self]

theorem float?_ofFloat32 {x : Float32} (hx : IsFinite x) : float? (ofFloat x) = some x := by
  rw [ofFloat_eq hx, float?, convert_convert hx]

theorem isFinite_of_float? {v : Json} (hv : v.IsSound) {x : Float} (h : v.float? = some x) :
    IsFinite x := by
  unfold float? at h
  split at h
  · cases h
    exact (Numeral.isBelow_nearest _ hv).isFinite
  · cases h
    exact (Numeral.isBelow_nearest _ (Nat.lt_of_le_of_lt hv (by decide))).isFinite
  · cases h
    rwa [convert_self]
  · cases h

end

class LawfulNamed (α : Type) [Named α] : Prop where
  ofName?_name (a : α) : Json.ofName? (Named.name a) = some a

theorem named?_ofNamed [Named α] [LawfulNamed α] (a : α) : named? (ofNamed a) = some a :=
  LawfulNamed.ofName?_name a

theorem namedWithin?_ofNamed [Named α] [LawfulNamed α] (a : α) :
    namedWithin? (ofNamed a) = some a :=
  LawfulNamed.ofName?_name a

/-! ## Readers and writers -/

/-- What is read from a sound value and is in order is read back from what is written for it. -/
def Restores (ok : α → Prop) (read : Access → Json → Option α) (write : α → Json) : Prop :=
  ∀ ⦃access v a⦄, v.IsSound → read access v = some a → ok a →
    ∀ access', read access' (write a) = some a

theorem Restores.back {ok : α → Prop} {read : Json → Option α} {write : α → Json}
    (h : Restores ok (fun _ => read) write) {v : Json} {a : α} (hv : v.IsSound)
    (ha : read v = some a) (hok : ok a) : read (write a) = some a :=
  @h .held v a hv ha hok .held

theorem Restores.fixed {ok : α → Prop} {read : Access → Json → Option α} {write : α → Json}
    (h : Restores ok read write) (fixed : Access) : Restores ok (fun _ => read fixed) write :=
  fun _ _ _ hv ha hok _ => h hv ha hok fixed

theorem restores_float : Restores (fun _ => True) (fun _ => float?) (ofFloat : Float → Json) :=
  fun _ _ _ hv h _ _ => float?_ofFloat (isFinite_of_float? hv h)

section
variable {ok : α → Prop} {read : Access → Json → Option α} {write : α → Json}

theorem forall_of_mapM {item : Json → Option α} {items : List Json} {l : List α}
    (h : items.mapM item = some l) : ∀ a ∈ l, ∃ v ∈ items, item v = some a := by
  induction items generalizing l with
  | nil =>
    cases h
    exact fun _ ha => absurd ha not_mem_nil
  | cons v items ih =>
    rw [mapM_cons] at h
    obtain ⟨a, ha, h⟩ := Option.bind_eq_some_iff.mp h
    obtain ⟨l, hl, h⟩ := Option.bind_eq_some_iff.mp h
    cases h
    refine forall_mem_cons.mpr ⟨⟨v, mem_cons_self, ha⟩, fun b hb => ?_⟩
    obtain ⟨w, hw, hwb⟩ := ih hl b hb
    exact ⟨w, mem_cons_of_mem v hw, hwb⟩

theorem mapM_map_write {item : Json → Option α} {l : List α}
    (h : ∀ a ∈ l, item (write a) = some a) : (l.map write).mapM item = some l := by
  induction l with
  | nil => rfl
  | cons a l ih =>
    obtain ⟨ha, hl⟩ := forall_mem_cons.mp h
    rw [map_cons, mapM_cons, ha, ih hl]
    rfl

theorem Restores.list (h : Restores ok read write) :
    Restores (fun l => ∀ a ∈ l, ok a) (fun access => list? (read access)) (ofList write) := by
  intro access v l hv hl hok access'
  cases v with
  | list items =>
    rw [IsSound, itemsSound_iff] at hv
    refine mapM_map_write fun a ha => ?_
    obtain ⟨w, hw, hwa⟩ := forall_of_mapM hl a ha
    exact h (hv w hw) hwa (hok a ha) access'
  | _ => cases hl

/-- A writer whose writings may be held and are not taken for the word that stands for no value. -/
structure IsOpen (write : α → Json) : Prop where
  isReadable (a : α) : (write a).isReadable = true
  caseName? (a : α) : (write a).caseName? = none

theorem admits_of_isReadable {access : Access} {v : Json} (h : v.isReadable = true) :
    access.admits v = true := by
  cases access with
  | direct => exact h
  | held => rfl

theorem mixed?_known {item : Json → Option α} (hw : IsOpen write) (access : Access) {a : α}
    (h : item (write a) = some a) :
    mixed? access item (ofMixed write (.known a)) = some (.known a) := by
  rw [ofMixed, mixed?, if_pos (admits_of_isReadable (hw.isReadable a)), hw.caseName? a,
    if_neg nofun, h]
  rfl

theorem Restores.mixed (h : Restores ok read write) (hw : IsOpen write) :
    Restores (fun m => ∀ a, m = .known a → ok a) (fun access => mixed? access (read access))
      (ofMixed write) := by
  intro access v m hv hm hok access'
  dsimp only at hm ⊢
  cases m with
  | indeterminate =>
    rw [ofMixed, mixed?, if_pos (admits_of_isReadable rfl)]
    rfl
  | known a =>
    unfold mixed? at hm
    split at hm
    · split at hm
      · cases hm
      · obtain ⟨b, hb, hba⟩ := Option.map_eq_some_iff.mp hm
        cases hba
        exact mixed?_known hw access' (h hv hb (hok a rfl) access')
    · cases hm

end

/-! ## Records -/

namespace Record

variable {r r' : Record} {name : String} {item item' : Json → Option α} {a b : α} {w : Json}

def IsSound (r : Record) : Prop := ∀ f ∈ r.fields, f.2.IsSound

theorem isSound_of_get? (hr : r.IsSound) {v : Json} (h : r.get? name = some v) : v.IsSound := by
  obtain ⟨f, hf, rfl⟩ := Option.map_eq_some_iff.mp h
  exact hr f (mem_of_find?_eq_some hf)

theorem isSound_ofFields? {names : List String} {fields : List (String × Json)}
    (hf : ∀ f ∈ fields, f.2.IsSound) (h : ofFields? names fields = some r) : r.IsSound := by
  unfold ofFields? at h
  dsimp only at h
  split at h <;> cases h
  exact fun f hm => hf f (mem_filter.mp hm).1

theorem isSound_ofJson? {names : List String} {v : Json} (hv : v.IsSound)
    (h : ofJson? names v = some r) : r.IsSound := by
  unfold ofJson? at h
  split at h
  · rw [Json.IsSound, fieldsSound_iff] at hv
    exact isSound_ofFields? hv h
  · split at h <;> cases h
    rw [Json.IsSound, itemsSound_iff] at hv
    exact fun f hf => hv f.2 (of_mem_zip hf).2
  · cases h

theorem ofFields?_append {names : List String} {fields others : List (String × Json)}
    (h : fields.map (·.1) = names) (hn : names.Nodup) (hothers : ∀ f ∈ others, f.1 ∉ names) :
    ofFields? names (fields ++ others) = some ⟨fields⟩ := by
  have hknown : (fields ++ others).filter (fun f => names.contains f.1) = fields := by
    rw [filter_append, filter_eq_self.mpr fun f hf => contains_iff_mem.mpr (h ▸ mem_map_of_mem hf),
      filter_eq_nil_iff.mpr fun f hf => by simpa using hothers f hf, append_nil]
  rw [ofFields?, hknown, h]
  exact if_pos hn

theorem ofJson?_object {names : List String} {fields : List (String × Json)}
    (h : fields.map (·.1) = names) (hn : names.Nodup) :
    ofJson? names (object fields) = some ⟨fields⟩ := by
  have hback := ofFields?_append h hn fun _ hf => absurd hf not_mem_nil
  rwa [append_nil] at hback

theorem required_eq (hget : r.get? name = some w) (h : item w = some a) :
    r.required name item = some a := by
  rw [required, hget]
  exact h

theorem withDefault_eq (hget : r.get? name = some w) (h : item w = some a) :
    r.withDefault name item b = some a := by
  rw [withDefault, hget]
  exact h

theorem nullable_eq {write : α → Json} {o : Option α} (hget : r.get? name = some (ofOption write o))
    (hnull : item null = none) (h : ∀ a, o = some a → item (write a) = some a) :
    r.nullable name item = some o := by
  cases o with
  | none => rw [nullable, hget]; rfl
  | some a =>
    have hback := h a rfl
    have hne : write a ≠ null := fun hw => by
      rw [hw, hnull] at hback
      cases hback
    rw [nullable, hget, ofOption]
    split
    · rename_i h
      cases h
    · rename_i h
      exact absurd (Option.some.inj h) hne
    · rename_i h
      cases h
      rw [hback]
      rfl

theorem required_restored (hr : r.IsSound) (h : r.required name item = some a)
    (hget : r'.get? name = some w)
    (hitem : ∀ {v}, v.IsSound → item v = some a → item' w = some a) :
    r'.required name item' = some a := by
  obtain ⟨v, hv, hva⟩ := Option.bind_eq_some_iff.mp h
  exact required_eq hget (hitem (isSound_of_get? hr hv) hva)

theorem withDefault_restored (hr : r.IsSound) (h : r.withDefault name item b = some a)
    (hget : r'.get? name = some w) (hb : a = b → item' w = some a)
    (hitem : ∀ {v}, v.IsSound → item v = some a → item' w = some a) :
    r'.withDefault name item' b = some a := by
  refine withDefault_eq hget ?_
  unfold withDefault at h
  split at h
  · cases h
    exact hb rfl
  · rename_i v hv
    exact hitem (isSound_of_get? hr hv) h

theorem nullable_restored {write : α → Json} {o : Option α} (hr : r.IsSound)
    (h : r.nullable name item = some o) (hget : r'.get? name = some (ofOption write o))
    (hnull : item null = none)
    (hitem : ∀ {v a}, v.IsSound → item v = some a → item (write a) = some a) :
    r'.nullable name item = some o := by
  refine nullable_eq hget hnull fun a ha => ?_
  rw [ha] at h
  unfold nullable at h
  split at h
  · cases h
  · cases h
  · rename_i v hv
    obtain ⟨b, hb, hba⟩ := Option.map_eq_some_iff.mp h
    cases hba
    exact hitem (isSound_of_get? hr hv) hb

theorem required_float (hr : r.IsSound) {x : Float} (h : r.required name float? = some x)
    (hget : r'.get? name = some (ofFloat x)) : r'.required name float? = some x :=
  required_restored hr h hget fun hv hx => float?_ofFloat (isFinite_of_float? hv hx)

theorem withDefault_float (hr : r.IsSound) {x y : Float} (h : r.withDefault name float? y = some x)
    (hget : r'.get? name = some (ofFloat x)) (hy : BinaryFloat.IsFinite y) :
    r'.withDefault name float? y = some x :=
  withDefault_restored hr h hget (fun hxy => float?_ofFloat (hxy ▸ hy)) fun hv hx =>
    float?_ofFloat (isFinite_of_float? hv hx)

theorem nullable_float (hr : r.IsSound) {o : Option Float} (h : r.nullable name float? = some o)
    (hget : r'.get? name = some (ofOption ofFloat o)) : r'.nullable name float? = some o :=
  nullable_restored hr h hget rfl fun hv hx => float?_ofFloat (isFinite_of_float? hv hx)

end Record

/-! ## Tagged values -/

section
variable {access : Access} {tag t : String} {names : List String} {v rest : Json}

theorem isSound_of_tagged? (hv : v.IsSound) (h : v.tagged? access tag names = some (t, rest)) :
    rest.IsSound := by
  unfold tagged? at h
  split at h
  · split at h
    · rw [IsSound, fieldsSound_iff] at hv
      split at h
      · obtain ⟨_, _, hrest⟩ := Option.map_eq_some_iff.mp h
        cases hrest
        rw [IsSound, fieldsSound_iff]
        exact fun f hf => hv f (mem_filter.mp hf).1
      · cases h
    · rw [IsSound, itemsSound_iff, forall_mem_cons] at hv
      obtain ⟨_, _, hrest⟩ := Option.map_eq_some_iff.mp h
      cases hrest
      rw [IsSound, itemsSound_iff]
      exact hv.2
    · cases h
  · cases h

theorem tagged?_written {w : Json} {fields : List (String × Json)} (hread : w.isReadable = true)
    (hw : w = object ((tag, text t) :: fields)) (hfields : ∀ f ∈ fields, f.1 ≠ tag) :
    w.tagged? access tag names = some (t, object fields) := by
  have hnone : fields.filter (fun f => f.1 == tag) = [] :=
    filter_eq_nil_iff.mpr fun f hf => by simpa using hfields f hf
  have hall : fields.filter (fun f => f.1 != tag) = fields :=
    filter_eq_self.mpr fun f hf => by simpa using hfields f hf
  have htag : ((tag, text t) :: fields).filter (fun f => f.1 == tag) = [(tag, text t)] := by
    rw [filter_cons_of_pos (by simp), hnone]
  have hrest : ((tag, text t) :: fields).filter (fun f => f.1 != tag) = fields := by
    rw [filter_cons_of_neg (by simp), hall]
  subst hw
  rw [tagged?, if_pos (admits_of_isReadable hread), htag, hrest]
  rfl

end

/-! ## Readable writings -/

section
variable {φ : Type} [BinaryFloat φ] {write : α → Json}

theorem itemsReadable_map (h : ∀ a, (write a).isReadable = true) :
    ∀ l : List α, itemsReadable (l.map write) = true
  | [] => rfl
  | a :: l => by rw [map_cons, itemsReadable, h a, itemsReadable_map h l]; rfl

@[simp] theorem isReadable_ofFloat (x : φ) : (ofFloat x).isReadable = true := by
  unfold ofFloat
  split <;> rfl

theorem isReadable_ofList (h : ∀ a, (write a).isReadable = true) (l : List α) :
    (ofList write l).isReadable = true :=
  itemsReadable_map h l

end

end Json

end Artboard
