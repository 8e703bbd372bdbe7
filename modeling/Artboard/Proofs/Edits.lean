import Artboard.Proofs.Ownership
import Artboard.Scene.Edit

/-!
# What edits keep

A call on an arena is done step by step, and none of its look-ups fails once it has written. So a
call that is given an unknown number changes nothing. After any calls on an empty arena all numbers
that are stored name slots, and what a slot names as its parent lists it.
-/

open List

namespace Artboard

namespace Edit

variable {α β γ : Type} {a : Arena α}

theorem bind_apply (x : Edit α β) (f : β → Edit α γ) (a : Arena α) :
    (x >>= f) a = match x a with
      | (.ok r, a') => f r a'
      | (.error e, a') => (.error e, a') := by
  change (match x a with
    | (outcome, a') => ExceptT.bindCont f outcome a') = _
  obtain ⟨outcome, a'⟩ := x a
  cases outcome <;> rfl

theorem look_of_lt {i : Nat} (h : i < a.size) : ∃ s, look i a = (.ok s, a) := by
  obtain ⟨s, hs⟩ := Arena.exists_get? h
  exact ⟨s, by rw [look, Arena.get, hs]⟩

theorem look_of_le {i : Nat} (h : a.size ≤ i) : look i a = (.error ⟨i⟩, a) := by
  rw [look, Arena.get, Arena.get?_eq_none h]

theorem change_of_lt {i : Nat} (h : i < a.size) (f : Slot α → Slot α) :
    change i f a = (.ok (), a.modify i f) := by
  obtain ⟨s, hs⟩ := look_of_lt h
  rw [change, bind_apply, hs]
  rfl

theorem change_of_le {i : Nat} (h : a.size ≤ i) (f : Slot α → Slot α) :
    change i f a = (.error ⟨i⟩, a) := by
  rw [change, bind_apply, look_of_le h]

theorem attach_of_lt {p c : Nat} (hp : p < a.size) (hc : c < a.size) :
    attach p c a = (.ok (), (a.setParent c (some p)).pushChild p c) := by
  obtain ⟨s, hs⟩ := look_of_lt hp
  rw [attach, bind_apply, hs]
  simp only
  rw [bind_apply, change_of_lt hc]
  -- the parent is still there, for writing to the child has made the arena no smaller
  have hp' : p < (a.modify c fun s => { s with parent := some p }).size := by
    rwa [Arena.size_modify]
  exact change_of_lt hp' _

theorem attach_of_le {p c : Nat} (hp : a.size ≤ p) : attach p c a = (.error ⟨p⟩, a) := by
  rw [attach, bind_apply, look_of_le hp]

theorem attach_of_lt_of_le {p c : Nat} (hp : p < a.size) (hc : a.size ≤ c) :
    attach p c a = (.error ⟨c⟩, a) := by
  obtain ⟨s, hs⟩ := look_of_lt hp
  rw [attach, bind_apply, hs]
  simp only
  rw [bind_apply, change_of_le hc]

theorem addRoot_of_lt {i : Nat} (h : i < a.size) :
    addRoot i a = (.ok (), { a.setParent i none with roots := a.roots ++ [i] }) := by
  obtain ⟨s, hs⟩ := Arena.exists_get? h
  rw [addRoot, bind_apply]
  change (if (a.get? i).isSome then _ else _ : Edit α Unit) a = _
  rw [hs]
  rfl

theorem addRoot_of_le {i : Nat} (h : a.size ≤ i) : addRoot i a = (.ok (), a) := by
  rw [addRoot, bind_apply]
  change (if (a.get? i).isSome then _ else _ : Edit α Unit) a = _
  rw [Arena.get?_eq_none h]
  rfl

end Edit

/-! ## Calls step by step -/

namespace Call

variable {α : Type}

def numbers : Call α → List Nat
  | insert _ => []
  | attach parent child => [parent, child]
  | addRoot i => [i]

def perform : Call α → Edit α Unit
  | insert e => discard (Edit.insert e)
  | attach parent child => Edit.attach parent child
  | addRoot i => Edit.addRoot i

def unknown? (a : Arena α) : Call α → Option Nat
  | attach parent child => [parent, child].find? fun i => a.size ≤ i
  | _ => none

end Call

namespace Arena

variable {α : Type} {a b : Arena α}

theorem call_attach_of_lt {p c : Nat} (hp : p < a.size) (hc : c < a.size) :
    a.call (.attach p c) = (a.setParent c (some p)).pushChild p c := by
  obtain ⟨s, hs⟩ := exists_get? hp
  obtain ⟨t, ht⟩ := exists_get? hc
  rw [call, attach, get, get, hs, ht]
  rfl

theorem call_eq_self {c : Call α} (h : ∃ i ∈ c.numbers, a.size ≤ i) : a.call c = a := by
  obtain ⟨i, hi, hle⟩ := h
  cases c with
  | insert e => cases hi
  | addRoot j =>
    cases mem_singleton.mp hi
    rw [call, Arena.addRoot, if_neg (Nat.not_lt_of_le hle)]
  | attach p d =>
    rw [call, attach, get, get]
    cases hs : a.get? p with
    | none => rfl
    | some s =>
      -- the parent is there, so the child is what is missing
      have hd : i = d := by
        rcases mem_cons.mp hi with rfl | hi
        · exact absurd hle (Nat.not_le_of_lt (get?_lt hs))
        · exact mem_singleton.mp hi
      rw [← hd, get?_eq_none hle]
      rfl

/-- Step by step a call comes to what it does in one go, and fails with the first number that names
no slot. -/
theorem perform_eq (c : Call α) (a : Arena α) : c.perform a =
    ((c.unknown? a).elim (.ok ()) fun i => .error ⟨i⟩, a.call c) := by
  cases c with
  | insert e => rfl
  | addRoot i =>
    rcases Nat.lt_or_ge i a.size with hi | hi
    · rw [Call.perform, Edit.addRoot_of_lt hi, call, Arena.addRoot, if_pos hi]
      rfl
    · rw [Call.perform, Edit.addRoot_of_le hi, call_eq_self ⟨i, mem_cons_self, hi⟩]
      rfl
  | attach p d =>
    rcases Nat.lt_or_ge p a.size with hp | hp
    · rcases Nat.lt_or_ge d a.size with hd | hd
      · rw [Call.perform, Edit.attach_of_lt hp hd, call_attach_of_lt hp hd]
        simp [Call.unknown?, hp, hd]
      · rw [Call.perform, Edit.attach_of_lt_of_le hp hd, call_eq_self ⟨d, by simp [Call.numbers], hd⟩]
        simp [Call.unknown?, hp, hd]
    · rw [Call.perform, Edit.attach_of_le hp, call_eq_self ⟨p, mem_cons_self, hp⟩]
      simp [Call.unknown?, hp]

def performAll : Arena α → List (Call α) → Arena α := foldl fun a c => (c.perform a).2

theorem performAll_eq (a : Arena α) (calls : List (Call α)) :
    a.performAll calls = a.callAll calls := by
  have hstep : (fun (a : Arena α) (c : Call α) => (c.perform a).2) = call := by
    funext a c
    rw [perform_eq]
  rw [performAll, callAll, hstep]

/-! ## What each call keeps -/

/-- All numbers that are stored name slots, and what a slot names as its parent lists it. -/
structure IsTied (a : Arena α) : Prop where
  root_lt : ∀ i ∈ a.roots, i < a.size
  child_lt : ∀ p c, a.Lists p c → c < a.size
  parent_lt : ∀ c p, a.Names c p → p < a.size
  lists_of_names : ∀ c p, a.Names c p → a.Lists p c

theorem isTied_empty : (empty : Arena α).IsTied := by
  constructor <;> simp [Lists, Names, get?, empty]

theorem size_pushChild (a : Arena α) (p c : Nat) : (a.pushChild p c).size = a.size :=
  size_modify ..

theorem size_setParent (a : Arena α) (c : Nat) (p : Option Nat) : (a.setParent c p).size = a.size :=
  size_modify ..

theorem names_setParent_iff {i c p : Nat} {q : Option Nat} (h : i < a.size) :
    (a.setParent i q).Names c p ↔ if c = i then q = some p else a.Names c p := by
  by_cases hc : c = i
  · rw [if_pos hc, hc, names_setParent h]
  · rw [if_neg hc, names_setParent_of_ne hc]

theorem IsTied.insert (h : a.IsTied) (e : Element α) : (a.insert e).IsTied := by
  have hsize : (a.insert e).size = a.size + 1 := size_store a _
  constructor
  · intro i hi
    have := h.root_lt i hi
    omega
  · intro p c hc
    have := h.child_lt p c ((lists_insert a e).mp hc)
    omega
  · intro c p hp
    have := h.parent_lt c p ((names_insert a e).mp hp)
    omega
  · intro c p hp
    exact (lists_insert a e).mpr (h.lists_of_names c p ((names_insert a e).mp hp))

theorem IsTied.attach (h : a.IsTied) {p d : Nat} (hp : p < a.size) (hd : d < a.size) :
    ((a.setParent d (some p)).pushChild p d).IsTied := by
  -- one listing and one parent field are new, everything else is as it was
  have hlists : ∀ q c, ((a.setParent d (some p)).pushChild p d).Lists q c ↔
      a.Lists q c ∨ q = p ∧ c = d := by
    intro q c
    rw [lists_pushChild (by rwa [size_setParent]), lists_setParent]
  have hnames : ∀ c q, ((a.setParent d (some p)).pushChild p d).Names c q ↔
      if c = d then some p = some q else a.Names c q := by
    intro c q
    rw [names_pushChild, names_setParent_iff hd]
  have hsize : ((a.setParent d (some p)).pushChild p d).size = a.size := by
    rw [size_pushChild, size_setParent]
  constructor
  · intro i hi
    rw [hsize]
    exact h.root_lt i hi
  · intro q c hc
    rw [hsize]
    rcases (hlists q c).mp hc with hc | ⟨_, rfl⟩
    · exact h.child_lt q c hc
    · exact hd
  · intro c q hq
    rw [hnames] at hq
    rw [hsize]
    split at hq
    · cases hq
      exact hp
    · exact h.parent_lt c q hq
  · intro c q hq
    rw [hnames] at hq
    rw [hlists]
    split at hq
    · cases hq
      exact .inr ⟨rfl, ‹c = d›⟩
    · exact .inl (h.lists_of_names c q hq)

theorem IsTied.addRoot (h : a.IsTied) {i : Nat} (hi : i < a.size) :
    { a.setParent i none with roots := a.roots ++ [i] : Arena α }.IsTied := by
  -- a root loses the parent it named, and no slot gains one
  have hnames : ∀ c p, (a.setParent i none).Names c p → a.Names c p := by
    intro c p hp
    rw [names_setParent_iff hi] at hp
    split at hp
    · cases hp
    · exact hp
  constructor
  · intro j hj
    change j < (a.setParent i none).size
    rw [size_setParent]
    rcases mem_append.mp hj with hj | hj
    · exact h.root_lt j hj
    · rwa [mem_singleton.mp hj]
  · intro p c hc
    change c < (a.setParent i none).size
    rw [size_setParent]
    exact h.child_lt p c (lists_setParent.mp hc)
  · intro c p hp
    change p < (a.setParent i none).size
    rw [size_setParent]
    exact h.parent_lt c p (hnames c p hp)
  · intro c p hp
    exact lists_setParent.mpr (h.lists_of_names c p (hnames c p hp))

theorem Changes.isTied {n : Option Nat} (h : a.Changes n b) (ha : a.IsTied) : b.IsTied := by
  cases h with
  | insert e => exact ha.insert e
  | attach hp hd => exact ha.attach hp hd
  | addRoot hi => exact ha.addRoot hi
  | refused => exact ha

theorem IsTied.callAll (h : a.IsTied) (calls : List (Call α)) : (a.callAll calls).IsTied := by
  induction calls generalizing a with
  | nil => exact h
  | cons c calls ih => exact ih ((changes_call a c).isTied h)

def KeepsElements (a b : Arena α) : Prop :=
  ∀ i s, a.get? i = some s → ∃ t, b.get? i = some t ∧ t.element = s.element

namespace KeepsElements

theorem refl (a : Arena α) : a.KeepsElements a := fun _ s hs => ⟨s, hs, rfl⟩

theorem trans {c : Arena α} (h : a.KeepsElements b) (h' : b.KeepsElements c) :
    a.KeepsElements c := by
  intro i s hs
  obtain ⟨t, ht, he⟩ := h i s hs
  obtain ⟨u, hu, he'⟩ := h' i t ht
  exact ⟨u, hu, he'.trans he⟩

theorem insert (a : Arena α) (e : Element α) : a.KeepsElements (a.insert e) := by
  intro i s hs
  refine ⟨s, ?_, rfl⟩
  rw [get?_insert, if_neg (Nat.ne_of_lt (get?_lt hs)), hs]

theorem modify (a : Arena α) (i : Nat) {f : Slot α → Slot α}
    (hf : ∀ s, (f s).element = s.element) : a.KeepsElements (a.modify i f) := by
  intro j s hs
  rw [get?_modify, hs]
  split
  · exact ⟨f s, rfl, hf s⟩
  · exact ⟨s, rfl, rfl⟩

end KeepsElements

theorem Changes.keepsElements {n : Option Nat} (h : a.Changes n b) : a.KeepsElements b := by
  cases h with
  | insert e => exact .insert a e
  | @attach p c =>
    have hchild : a.KeepsElements (a.setParent c (some p)) := .modify a c fun _ => rfl
    exact hchild.trans (.modify _ p fun _ => rfl)
  | @addRoot i => exact KeepsElements.modify a i fun _ => rfl
  | refused => exact .refl a

/-- **Numbers never dangle, and calls that are given an unknown one change nothing.** After any calls
on an empty arena, taken step by step, all is tied together. On whatever arena, a call fails if it
looks up a number that names no slot, which it tells; the arena is then as it was, as it is after any
call with an unknown number; and no call changes an element. -/
theorem performAll_isTied (calls : List (Call α)) :
    (empty.performAll calls).IsTied ∧
      ∀ (a : Arena α) (c : Call α),
        (c.perform a).1 = (c.unknown? a).elim (.ok ()) (fun i => .error ⟨i⟩) ∧
        ((∃ i ∈ c.numbers, a.get? i = none) → (c.perform a).2 = a) ∧
        a.KeepsElements (c.perform a).2 := by
  constructor
  · rw [performAll_eq]
    exact isTied_empty.callAll calls
  · intro a c
    rw [perform_eq]
    refine ⟨rfl, ?_, (changes_call a c).keepsElements⟩
    rintro ⟨i, hi, hnone⟩
    exact call_eq_self ⟨i, hi, Array.getElem?_eq_none_iff.mp hnone⟩

end Arena

end Artboard
