import Artboard.Proofs.Storage
import Artboard.Proofs.Traversals

/-!
# Building an arena by calls

Elements are put into an empty arena, attached to one another and made roots. A call that succeeds
adds one place to the lists or none, and no call takes one away, so a slot is listed as often as calls
have named it. For a slot that is listed once at most, what lists it and what it names as its parent
agree. So each slot has one owner if and only if no two calls have named the same.
-/

open List

namespace Artboard

/-- One call on an arena. What is inserted has no links. -/
inductive Call (α : Type)
  | insert (e : Element α)
  | attach (parent child : Nat)
  | addRoot (i : Nat)

namespace Arena

variable {α : Type}

def call (a : Arena α) : Call α → Arena α
  | .insert e => a.insert e
  | .attach parent child => (a.attach parent child).toOption.getD a
  | .addRoot i => a.addRoot i

def linked? (a : Arena α) : Call α → Option Nat
  | .insert _ => none
  | .attach parent child => (a.attach parent child).toOption.map fun _ => child
  | .addRoot i => (a.get? i).map fun _ => i

def callAll : Arena α → List (Call α) → Arena α := foldl call

def linkedAll : Arena α → List (Call α) → List Nat
  | _, [] => []
  | a, c :: calls => (a.linked? c).toList ++ linkedAll (a.call c) calls

/-- Each slot is listed once at most, a child by the slot that it names as its parent, and the loop
over the stack ends and meets none twice. -/
structure IsOwned (a : Arena α) : Prop where
  listed_once : ∀ i, a.links.count i ≤ 1
  lists_iff_names : ∀ p c, a.Lists p c ↔ a.Names c p
  walksTo : a.WalksTo a.walk
  walk_nodup : a.walk.Nodup

variable {a b : Arena α}

/-! ## New slots, new parents, new children -/

section Insert
variable (a) (e : Element α) {p c : Nat}

theorem get?_insert (j : Nat) : (a.insert e).get? j =
    if j = a.size then some ⟨e, none, []⟩ else a.get? j := get?_store ..

theorem lists_insert : (a.insert e).Lists p c ↔ a.Lists p c := by
  rw [Lists, Lists, get?_insert]
  split
  · next hp => simp [hp, get?_eq_none (Nat.le_refl _)]
  · rfl

theorem names_insert : (a.insert e).Names c p ↔ a.Names c p := by
  rw [Names, Names, get?_insert]
  split
  · next hc => simp [hc, get?_eq_none (Nat.le_refl _)]
  · rfl

theorem links_insert : (a.insert e).links = a.links := by
  simp [links, insert]

end Insert

def setParent (a : Arena α) (c : Nat) (p : Option Nat) : Arena α :=
  a.modify c fun s => { s with parent := p }

section Links
variable {i k p c : Nat} {q : Option Nat}

theorem exists_get? (h : i < a.size) : ∃ s, a.get? i = some s := ⟨_, Array.getElem?_eq_getElem h⟩

theorem lists_setParent : (a.setParent i q).Lists p c ↔ a.Lists p c := by
  rw [Lists, setParent, get?_modify]
  split <;> simp [Lists]

theorem names_setParent_of_ne (h : c ≠ i) : (a.setParent i q).Names c p ↔ a.Names c p := by
  rw [Names, setParent, get?_modify, if_neg h]
  rfl

theorem names_setParent (h : i < a.size) : (a.setParent i q).Names i p ↔ q = some p := by
  obtain ⟨s, hs⟩ := exists_get? h
  rw [Names, setParent, get?_modify, if_pos rfl, hs]
  simp

theorem lists_pushChild (h : i < a.size) :
    (a.pushChild i k).Lists p c ↔ a.Lists p c ∨ p = i ∧ c = k := by
  rw [Lists, pushChild, get?_modify]
  by_cases hp : p = i
  · obtain ⟨s, hs⟩ := exists_get? h
    simp [Lists, hp, hs]
  · simp [Lists, hp]

theorem names_pushChild : (a.pushChild i k).Names c p ↔ a.Names c p := by
  rw [Names, pushChild, get?_modify]
  split <;> simp [Names]

theorem flatMap_modify_perm {f : Slot α → Slot α} {more : List Nat}
    (hf : ∀ s, (f s).children = s.children ++ more) : ∀ {i : Nat} {slots : List (Slot α)},
      i < slots.length →
        (slots.modify i f).flatMap (·.children) ~ slots.flatMap (·.children) ++ more
  | 0, s :: slots, _ => by
    rw [modify_zero_cons, flatMap_cons, flatMap_cons, hf, append_assoc, append_assoc]
    exact perm_append_comm.append_left s.children
  | i + 1, s :: slots, hi => by
    rw [modify_succ_cons, flatMap_cons, flatMap_cons, append_assoc]
    exact (flatMap_modify_perm hf (Nat.lt_of_succ_lt_succ hi)).append_left s.children

theorem links_modify_perm {f : Slot α → Slot α} {more : List Nat}
    (hf : ∀ s, (f s).children = s.children ++ more) (h : i < a.size) :
    (a.modify i f).links ~ a.links ++ more := by
  rw [links, links, append_assoc, modify, Array.toList_modify]
  exact (flatMap_modify_perm hf h).append_left a.roots

theorem links_setParent_perm (h : i < a.size) : (a.setParent i q).links ~ a.links := by
  have hperm : (a.setParent i q).links ~ a.links ++ [] :=
    links_modify_perm (fun s => (append_nil s.children).symm) h
  rwa [append_nil] at hperm

theorem links_pushChild_perm (h : i < a.size) : (a.pushChild i k).links ~ a.links ++ [k] :=
  links_modify_perm (fun _ => rfl) h

theorem links_roots_perm (a : Arena α) (i : Nat) :
    { a with roots := a.roots ++ [i] : Arena α }.links ~ a.links ++ [i] := by
  rw [links, links, append_assoc, append_assoc]
  exact perm_append_comm.append_left a.roots

end Links

/-! ## One call -/

/-- What a call makes of an arena, with the slot that it puts into a list. -/
inductive Changes (a : Arena α) : Option Nat → Arena α → Prop
  | insert (e : Element α) : Changes a none (a.insert e)
  | attach {p c : Nat} (hp : p < a.size) (hc : c < a.size) :
      Changes a (some c) ((a.setParent c (some p)).pushChild p c)
  | addRoot {i : Nat} (hi : i < a.size) :
      Changes a (some i) { a.setParent i none with roots := a.roots ++ [i] }
  | refused : Changes a none a

theorem changes_attach (a : Arena α) (p c : Nat) :
    a.Changes (a.linked? (.attach p c)) (a.call (.attach p c)) := by
  rw [linked?, call, Arena.attach, get, get]
  cases hs : a.get? p with
  | none => exact .refused
  | some s =>
    cases ht : a.get? c with
    | none => exact .refused
    | some t => exact .attach (get?_lt hs) (get?_lt ht)

theorem changes_addRoot (a : Arena α) (i : Nat) :
    a.Changes (a.linked? (.addRoot i)) (a.call (.addRoot i)) := by
  rw [linked?, call, Arena.addRoot]
  by_cases hi : i < a.size
  · obtain ⟨s, hs⟩ := exists_get? hi
    rw [if_pos hi, hs]
    exact .addRoot hi
  · rw [if_neg hi, get?_eq_none (Nat.le_of_not_lt hi)]
    exact .refused

theorem changes_call (a : Arena α) : ∀ c : Call α, a.Changes (a.linked? c) (a.call c)
  | .insert e => .insert e
  | .attach p c => a.changes_attach p c
  | .addRoot i => a.changes_addRoot i

namespace Changes

variable {n : Option Nat} {p c : Nat}

theorem links_perm (h : a.Changes n b) : b.links ~ a.links ++ n.toList := by
  cases h with
  | insert e => rw [links_insert, Option.toList_none, append_nil]
  | @attach p c hp hc =>
    have hchild : ((a.setParent c (some p)).pushChild p c).links ~
        (a.setParent c (some p)).links ++ [c] :=
      links_pushChild_perm (by rwa [setParent, size_modify])
    exact hchild.trans ((links_setParent_perm hc).append_right [c])
  | @addRoot i hi => exact (links_roots_perm _ i).trans ((links_setParent_perm hi).append_right [i])
  | refused => rw [Option.toList_none, append_nil]

theorem lists_of_ne (h : a.Changes n b) (hc : n ≠ some c) : b.Lists p c ↔ a.Lists p c := by
  cases h with
  | insert e => exact lists_insert a e
  | @attach q d hq hd =>
    rw [lists_pushChild (by rwa [setParent, size_modify]), lists_setParent]
    exact or_iff_left fun heq => hc (congrArg some heq.2.symm)
  | addRoot hi => exact lists_setParent
  | refused => rfl

theorem names_of_ne (h : a.Changes n b) (hc : n ≠ some c) : b.Names c p ↔ a.Names c p := by
  cases h with
  | insert e => exact names_insert a e
  | attach hq hd =>
    rw [names_pushChild]
    exact names_setParent_of_ne fun heq => hc (congrArg some heq.symm)
  | addRoot hi => exact names_setParent_of_ne fun heq => hc (congrArg some heq.symm)
  | refused => rfl

theorem lists_iff_names (h : a.Changes (some c) b) (hfree : ∀ p, ¬a.Lists p c) :
    b.Lists p c ↔ b.Names c p := by
  cases h with
  | attach hq hc =>
    rw [lists_pushChild (by rwa [setParent, size_modify]), lists_setParent, names_pushChild,
      names_setParent hc, or_iff_right (hfree p), Option.some_inj, and_iff_left rfl, eq_comm]
  | addRoot hi =>
    exact iff_of_false (lists_setParent.not.mpr (hfree p)) ((names_setParent hi).not.mpr nofun)

end Changes

/-! ## Histories -/

/-- Where a slot is listed once at most, this is by the one that it names as its parent. -/
def Agrees (a : Arena α) : Prop := ∀ c, a.links.count c ≤ 1 → ∀ p, a.Lists p c ↔ a.Names c p

theorem not_lists_of_count_eq_zero {p c : Nat} (h : a.links.count c = 0) : ¬a.Lists p c :=
  fun hlists => count_eq_zero.mp h (mem_links_iff.mpr (.inr ⟨p, hlists⟩))

theorem Changes.agrees {n : Option Nat} (h : a.Changes n b) (ha : a.Agrees) : b.Agrees := by
  intro c hc p
  rw [h.links_perm.count_eq, count_append] at hc
  by_cases hn : n = some c
  · -- the place that the call adds is the first, or there would be two
    subst hn
    have hfree : a.links.count c = 0 := by simpa using hc
    exact h.lists_iff_names fun _ => not_lists_of_count_eq_zero hfree
  · rw [h.lists_of_ne hn, h.names_of_ne hn]
    exact ha c (Nat.le_of_add_right_le hc) p

theorem agrees_empty : (empty : Arena α).Agrees := by
  intro c _ p
  simp [Lists, Names, get?, empty]

theorem Agrees.callAll (h : a.Agrees) (calls : List (Call α)) : (a.callAll calls).Agrees := by
  induction calls generalizing a with
  | nil => exact h
  | cons c calls ih => exact ih ((changes_call a c).agrees h)

theorem links_callAll_perm (a : Arena α) (calls : List (Call α)) :
    (a.callAll calls).links ~ a.links ++ a.linkedAll calls := by
  induction calls generalizing a with
  | nil => rw [linkedAll, append_nil]; rfl
  | cons c calls ih =>
    have hcall := (changes_call a c).links_perm
    have hcalls := (ih (a.call c)).trans (hcall.append_right _)
    rw [append_assoc] at hcalls
    exact hcalls

theorem Agrees.isOwned_iff (h : a.Agrees) : a.IsOwned ↔ a.links.Nodup := by
  constructor
  · intro howned
    exact nodup_iff_count_le_one.mpr howned.listed_once
  · intro hnodup
    have honce := isReachedOnce_of_nodup_links hnodup
    have hcount := nodup_iff_count_le_one.mp hnodup
    exact {
      listed_once := hcount
      lists_iff_names := fun p c => h c (hcount c) p
      walksTo := walksTo_iff.mpr honce.isAcyclic.traversal_walk
      walk_nodup := honce.nodup_walk }

/-- **Each slot has one owner as long as no two calls name the same.** After any calls on an empty
arena a slot is listed as often as calls have put it into a list. Where that is once at most, it is
listed by the slot that it names as its parent, and if this is so of all slots, then the loop ends
and meets none twice. -/
theorem isOwned_callAll_iff (calls : List (Call α)) :
    (∀ i, (empty.callAll calls).links.count i = (empty.linkedAll calls).count i) ∧
      (∀ c, (empty.linkedAll calls).count c ≤ 1 →
        ∀ p, (empty.callAll calls).Lists p c ↔ (empty.callAll calls).Names c p) ∧
      ((empty.callAll calls).IsOwned ↔ (empty.linkedAll calls).Nodup) := by
  have hagrees := agrees_empty.callAll calls
  have hperm : (empty.callAll calls).links ~ empty.linkedAll calls := links_callAll_perm empty calls
  refine ⟨fun i => hperm.count_eq i, fun c hc => hagrees c ?_, ?_⟩
  · rwa [hperm.count_eq]
  · rw [hagrees.isOwned_iff, hperm.nodup_iff]

/-- Two roots, to each of which the same slot is attached. -/
def sharing : List (Call Float) :=
  [.insert dot, .insert dot, .insert dot, .attach 0 2, .attach 1 2, .addRoot 0, .addRoot 1]

def shared : Arena Float :=
  ⟨#[⟨dot, none, [2]⟩, ⟨dot, none, [2]⟩, ⟨dot, some 1, []⟩], [0, 1]⟩

theorem sharing_not_isOwned : empty.callAll sharing = shared ∧ ¬shared.IsOwned ∧
    shared.links.count 2 = 2 ∧ (shared.Lists 0 2 ∧ ¬shared.Names 2 0) ∧
      shared.walk = [0, 2, 1, 2] := by
  have hlists : shared.Lists 0 2 := ⟨_, rfl, mem_singleton_self 2⟩
  have hnames : ¬shared.Names 2 0 := by simp [shared, Names, get?]
  have hwalk : shared.walk = [0, 2, 1, 2] := by
    simp [shared, walk, walkFrom, childIndices, get?, size]
  have hnot : ¬shared.IsOwned := fun h => hnames ((h.lists_iff_names 0 2).mp hlists)
  exact ⟨rfl, hnot, by decide, ⟨hlists, hnames⟩, hwalk⟩

end Arena

end Artboard
