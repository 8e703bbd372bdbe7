import Artboard.Proofs.Walking

/-!
# Walking by a stack

A loop that takes numbers off a stack, and puts in their place what they list, meets them in the
order of the recursion over the links. It ends if and only if no number that can be reached lies below
itself. If each is reached in one way only, the walk with a budget meets what the loop does, and
meets it once.
-/

open List Relation

namespace Artboard

/-- A walk under way: the numbers met so far, and the stack of those to come, its top at the end. -/
structure Walker where
  met : List Nat
  stack : List Nat

namespace Arena

variable {α : Type} (a : Arena α)

def walkStep (w : Walker) : Option Walker :=
  w.stack.getLast?.map fun i => ⟨w.met ++ [i], w.stack.dropLast ++ (a.childIndices i).reverse⟩

/-- From the roots the loop comes to an empty stack, and has met the numbers of the list by then. -/
def WalksTo (l : List Nat) : Prop :=
  ReflTransGen (fun v w => a.walkStep v = some w) ⟨[], a.roots.reverse⟩ ⟨l, []⟩

/-- Numbers in order, each followed by the traversal of what it lists. -/
inductive Traversal : List Nat → List Nat → Prop
  | nil : Traversal [] []
  | cons {i : Nat} {is below rest : List Nat} (hbelow : Traversal (a.childIndices i) below)
      (hrest : Traversal is rest) : Traversal (i :: is) (i :: (below ++ rest))

/-- A way from the roots to a number, told by the places taken in the lists, the last one first. -/
inductive Leads : List Nat → Nat → Prop
  | root {k i : Nat} (hi : a.roots[k]? = some i) : Leads [k] i
  | child {path : List Nat} {p k c : Nat} (hp : Leads path p)
      (hc : (a.childIndices p)[k]? = some c) : Leads (k :: path) c

variable {a}

/-! ## The loop and the recursion -/

theorem walkStep_concat (met stack : List Nat) (i : Nat) : a.walkStep ⟨met, stack ++ [i]⟩ =
    some ⟨met ++ [i], stack ++ (a.childIndices i).reverse⟩ := by
  simp [walkStep]

/-- What lies lower on the stack waits until the traversal of what lies above is met. -/
theorem Traversal.run {is out : List Nat} (h : a.Traversal is out) : ∀ met stack : List Nat,
    ReflTransGen (fun v w => a.walkStep v = some w) ⟨met, stack ++ is.reverse⟩
      ⟨met ++ out, stack⟩ := by
  induction h with
  | nil =>
    intro met stack
    rw [reverse_nil, append_nil, append_nil]
  | @cons i is below rest _ _ ihbelow ihrest =>
    intro met stack
    have hbelow := ihbelow (met ++ [i]) (stack ++ is.reverse)
    have hrest := ihrest (met ++ [i] ++ below) stack
    rw [reverse_cons, ← append_assoc]
    refine .head (walkStep_concat met (stack ++ is.reverse) i) ?_
    simpa only [append_assoc, cons_append, nil_append] using hbelow.trans hrest

theorem Traversal.of_append {is js out : List Nat} (h : a.Traversal (is ++ js) out) :
    ∃ front back, a.Traversal is front ∧ a.Traversal js back ∧ out = front ++ back := by
  induction is generalizing out with
  | nil => exact ⟨[], out, .nil, h, rfl⟩
  | cons i is ih =>
    cases h with
    | cons hbelow hrest =>
      obtain ⟨front, back, hfront, hback, rfl⟩ := ih hrest
      exact ⟨_, back, .cons hbelow hfront, hback, by simp⟩

theorem exists_traversal_of_run {w : Walker} {l : List Nat}
    (h : ReflTransGen (fun v w => a.walkStep v = some w) w ⟨l, []⟩) :
    ∃ out, a.Traversal w.stack.reverse out ∧ l = w.met ++ out := by
  induction h using ReflTransGen.head_induction_on with
  | refl => exact ⟨[], .nil, (append_nil l).symm⟩
  | @head v w hstep _ ih =>
    obtain ⟨met, stack⟩ := v
    rcases eq_nil_or_concat stack with rfl | ⟨stack, i, rfl⟩
    · cases hstep
    · rw [concat_eq_append, walkStep_concat] at hstep
      cases hstep
      obtain ⟨out, hout, rfl⟩ := ih
      rw [reverse_append, reverse_reverse] at hout
      obtain ⟨below, rest, hbelow, hrest, rfl⟩ := hout.of_append
      refine ⟨i :: (below ++ rest), ?_, by simp⟩
      rw [concat_eq_append, reverse_append]
      exact .cons hbelow hrest

/-- **The loop meets what the recursion over the links does,** and ends exactly if that ends. -/
theorem walksTo_iff {l : List Nat} : a.WalksTo l ↔ a.Traversal a.roots l := by
  constructor
  · intro h
    obtain ⟨out, hout, rfl⟩ := exists_traversal_of_run h
    rwa [reverse_reverse] at hout
  · intro h
    exact h.run [] []

/-! ## What a traversal meets -/

theorem lists_iff {p c : Nat} : a.Lists p c ↔ c ∈ a.childIndices p := by
  constructor
  · rintro ⟨s, hs, hc⟩
    rwa [childIndices_of_get? hs]
  · intro hc
    cases hs : a.get? p with
    | none => simp [childIndices, hs] at hc
    | some s => exact ⟨s, hs, by rwa [childIndices_of_get? hs] at hc⟩

theorem Lists.lt {p c : Nat} (h : a.Lists p c) : p < a.size := by
  obtain ⟨s, hs, _⟩ := h
  exact get?_lt hs

theorem Reachable.lists {p c : Nat} (hp : a.Reachable p) (hc : a.Lists p c) : a.Reachable c := by
  obtain ⟨s, hs, hc⟩ := hc
  exact .child hp hs hc

namespace Traversal

variable {is out : List Nat}

theorem subset (h : a.Traversal is out) : is ⊆ out := by
  induction h with
  | nil => exact Subset.refl _
  | @cons i is below rest _ _ _ ihrest =>
    refine cons_subset.mpr ⟨mem_cons_self, fun j hj => ?_⟩
    exact mem_cons_of_mem _ (mem_append_right _ (ihrest hj))

theorem pair_sublist (h : a.Traversal is out) {p c : Nat} (hp : p ∈ out) (hc : a.Lists p c) :
    [p, c] <+ out := by
  induction h with
  | nil => cases hp
  | @cons i is below rest hbelow _ ihbelow ihrest =>
    rcases mem_cons.mp hp with rfl | hp
    · have hmem := hbelow.subset (lists_iff.mp hc)
      exact (singleton_sublist.mpr (mem_append_left _ hmem)).cons_cons p
    · rcases mem_append.mp hp with hp | hp
      · exact ((ihbelow hp).trans (sublist_append_left ..)).cons i
      · exact ((ihrest hp).trans (sublist_append_right ..)).cons i

theorem mem_of_reachable {l : List Nat} (h : a.Traversal a.roots l) {i : Nat}
    (hi : a.Reachable i) : i ∈ l := by
  induction hi with
  | root hi => exact h.subset hi
  | child _ hs hc ih => exact (h.pair_sublist ih ⟨_, hs, hc⟩).subset (by simp)

end Traversal

/-! ## Where the loop ends -/

def IsAcyclic (a : Arena α) : Prop := ∀ i, a.Reachable i → ¬TransGen a.Lists i i

theorem Reachable.transGen {p c : Nat} (hp : a.Reachable p) (h : TransGen a.Lists p c) :
    a.Reachable c := by
  induction h with
  | single hc => exact hp.lists hc
  | tail _ hc ih => exact ih.lists hc

theorem Traversal.acc {is out : List Nat} (h : a.Traversal is out) :
    ∀ i ∈ is, Acc (fun c p => a.Lists p c) i := by
  induction h with
  | nil => nofun
  | cons _ _ ihbelow ihrest =>
    rw [forall_mem_cons]
    exact ⟨.intro _ fun c hc => ihbelow c (lists_iff.mp hc), ihrest⟩

theorem not_of_acc {β : Type} {r : β → β → Prop} {b : β} (h : Acc r b) : ¬r b b := by
  induction h with
  | intro b _ ih => exact fun hb => ih b hb hb

theorem Traversal.isAcyclic {l : List Nat} (h : a.Traversal a.roots l) : a.IsAcyclic := by
  have hacc : ∀ i, a.Reachable i → Acc (fun c p => a.Lists p c) i := by
    intro i hi
    induction hi with
    | root hi => exact h.acc _ hi
    | child _ hs hc ih => exact ih.inv ⟨_, hs, hc⟩
  exact fun i hi hcycle => not_of_acc (hacc i hi).transGen (transGen_swap.mpr hcycle)

/-! ## Ways -/

theorem Leads.reachable {path : List Nat} {i : Nat} (h : a.Leads path i) : a.Reachable i := by
  induction h with
  | root hi => exact .root (mem_of_getElem? hi)
  | child _ hc ih => exact ih.lists (lists_iff.mpr (mem_of_getElem? hc))

theorem Leads.exists_child {path : List Nat} {p c : Nat} (h : a.Leads path p) (hc : a.Lists p c) :
    ∃ k, a.Leads (k :: path) c := by
  obtain ⟨k, hk⟩ := mem_iff_getElem?.mp (lists_iff.mp hc)
  exact ⟨k, .child h hk⟩

theorem Reachable.exists_leads {i : Nat} (h : a.Reachable i) : ∃ path, a.Leads path i := by
  induction h with
  | root hi =>
    obtain ⟨k, hk⟩ := mem_iff_getElem?.mp hi
    exact ⟨[k], .root hk⟩
  | child _ hs hc ih =>
    obtain ⟨path, hpath⟩ := ih
    obtain ⟨k, hk⟩ := hpath.exists_child ⟨_, hs, hc⟩
    exact ⟨_, hk⟩

theorem Leads.exists_chain {path : List Nat} {i : Nat} (h : a.Leads path i) : ∃ above : List Nat,
    path.length = above.length + 1 ∧ IsChain (fun c p => a.Lists p c) (i :: above) ∧
      (∀ j ∈ i :: above, a.Reachable j) ∧ ∀ j ∈ above, j < a.size := by
  induction h with
  | @root k i hi =>
    exact ⟨[], rfl, .singleton i, by simpa using Reachable.root (mem_of_getElem? hi), nofun⟩
  | @child path p k c hp hc ih =>
    obtain ⟨above, hlength, hchain, hreach, hlt⟩ := ih
    have hlists : a.Lists p c := lists_iff.mpr (mem_of_getElem? hc)
    exact ⟨p :: above, by simpa using hlength, .cons_cons hlists hchain,
      forall_mem_cons.mpr ⟨(hreach p mem_cons_self).lists hlists, hreach⟩,
      forall_mem_cons.mpr ⟨hlists.lt, hlt⟩⟩

section
variable (h : a.IsAcyclic)
include h

theorem Leads.length_le {path : List Nat} {i : Nat} (hi : a.Leads path i) (hlt : i < a.size) :
    path.length ≤ a.size := by
  obtain ⟨above, hlength, hchain, hreach, hslots⟩ := hi.exists_chain
  have hpairs : (i :: above).Pairwise (TransGen fun c p => a.Lists p c) :=
    (hchain.imp fun _ _ hc => .single hc).pairwise
  have hnodup : (i :: above).Nodup := by
    refine hpairs.imp_of_mem fun {c p} hc _ hcp hne => ?_
    subst hne
    exact h c (hreach c hc) (transGen_swap.mp hcp)
  have hall : ∀ j ∈ i :: above, j < a.size := forall_mem_cons.mpr ⟨hlt, hslots⟩
  have hrange : i :: above ⊆ List.range a.size := fun j hj => List.mem_range.mpr (hall j hj)
  simpa [hlength] using (subperm_of_subset hnodup hrange).length_le

theorem Leads.childIndices_eq_nil {path : List Nat} {i : Nat} (hi : a.Leads path i)
    (hlong : a.size < path.length) : a.childIndices i = [] := by
  cases hs : a.get? i with
  | none => simp [childIndices, hs]
  | some s => exact absurd (hi.length_le h (get?_lt hs)) (Nat.not_le_of_lt hlong)

end

/-! ## The budget of the walk -/

def Affords (a : Arena α) (b i : Nat) : Prop := ∃ out, a.Traversal (a.childIndices i) out ∧
  ∀ rest, a.walkFrom ((b, i) :: rest) = i :: (out ++ a.walkFrom rest)

theorem exists_traversal_of_affords {b : Nat} : ∀ {is : List Nat}, (∀ i ∈ is, a.Affords b i) →
    ∃ out, a.Traversal is out ∧
      ∀ rest, a.walkFrom (is.map (fun i => (b, i)) ++ rest) = out ++ a.walkFrom rest
  | [], _ => ⟨[], .nil, fun _ => rfl⟩
  | i :: is, h => by
    rw [forall_mem_cons] at h
    obtain ⟨below, hbelow, hwalk⟩ := h.1
    obtain ⟨out, hout, hwalks⟩ := exists_traversal_of_affords h.2
    refine ⟨_, .cons hbelow hout, fun rest => ?_⟩
    rw [map_cons, cons_append, hwalk, hwalks, cons_append, append_assoc]

theorem affords_of_leads (h : a.IsAcyclic) : ∀ {b i : Nat} {path : List Nat}, a.Leads path i →
    path.length + b = a.size + 1 → a.Affords b i
  | 0, i, path, hi, hlength => by
    have hnil := hi.childIndices_eq_nil h (by omega)
    refine ⟨[], ?_, fun rest => ?_⟩
    · rw [hnil]
      exact .nil
    · rw [walkFrom, nil_append]
  | b + 1, i, path, hi, hlength => by
    have hall : ∀ c ∈ a.childIndices i, a.Affords b c := by
      intro c hc
      obtain ⟨k, hk⟩ := hi.exists_child (lists_iff.mpr hc)
      exact affords_of_leads h hk (by rw [length_cons]; omega)
    obtain ⟨out, hout, hwalks⟩ := exists_traversal_of_affords hall
    refine ⟨out, hout, fun rest => ?_⟩
    rw [walkFrom, hwalks]

theorem IsAcyclic.traversal_walk (h : a.IsAcyclic) : a.Traversal a.roots a.walk := by
  have hroots : ∀ i ∈ a.roots, a.Affords a.size i := by
    intro i hi
    obtain ⟨k, hk⟩ := mem_iff_getElem?.mp hi
    exact affords_of_leads h (.root hk) (by rw [length_singleton]; omega)
  obtain ⟨out, hout, hwalk⟩ := exists_traversal_of_affords hroots
  have heq := hwalk []
  rw [append_nil, walkFrom, append_nil] at heq
  rwa [walk, heq]

/-- **The loop ends if and only if nothing that can be reached lies below itself.** It has met then
what the walk with a budget meets. -/
theorem exists_walksTo_iff : (∃ l, a.WalksTo l) ↔ a.IsAcyclic := by
  constructor
  · rintro ⟨l, hl⟩
    exact (walksTo_iff.mp hl).isAcyclic
  · intro h
    exact ⟨_, walksTo_iff.mpr h.traversal_walk⟩

/-! ## Ways through a place -/

def LeadsThrough (a : Arena α) (path : List Nat) (j : Nat) : Prop :=
  ∃ down, a.Leads (down ++ path) j

theorem Leads.through {path : List Nat} {j : Nat} (h : a.Leads path j) : a.LeadsThrough path j :=
  ⟨[], h⟩

theorem LeadsThrough.up {path : List Nat} {k j : Nat} (h : a.LeadsThrough (k :: path) j) :
    a.LeadsThrough path j := by
  obtain ⟨down, hway⟩ := h
  exact ⟨down ++ [k], by rwa [append_assoc]⟩

def InLine (a : Arena α) (n : Nat) (path is : List Nat) : Prop :=
  ∀ k i, is[k]? = some i → a.Leads ((n + k) :: path) i

theorem inLine_roots (a : Arena α) : a.InLine 0 [] a.roots := by
  intro k i hi
  rw [Nat.zero_add]
  exact .root hi

namespace InLine

variable {n : Nat} {path : List Nat}

theorem head {i : Nat} {is : List Nat} (h : a.InLine n path (i :: is)) : a.Leads (n :: path) i :=
  h 0 i rfl

theorem tail {i : Nat} {is : List Nat} (h : a.InLine n path (i :: is)) :
    a.InLine (n + 1) path is := by
  intro k j hj
  rw [Nat.add_right_comm]
  exact h (k + 1) j hj

theorem below {i : Nat} {is : List Nat} (h : a.InLine n path (i :: is)) :
    a.InLine 0 (n :: path) (a.childIndices i) := by
  intro k c hc
  rw [Nat.zero_add]
  exact .child h.head hc

end InLine

theorem Traversal.exists_through {is out : List Nat} (h : a.Traversal is out) {n : Nat}
    {path : List Nat} (hline : a.InLine n path is) :
    ∀ j ∈ out, ∃ k, n ≤ k ∧ a.LeadsThrough (k :: path) j := by
  induction h generalizing n path with
  | nil => nofun
  | cons _ _ ihbelow ihrest =>
    rw [forall_mem_cons, forall_mem_append]
    refine ⟨⟨n, Nat.le_refl n, hline.head.through⟩, fun j hj => ?_, fun j hj => ?_⟩
    · obtain ⟨k, _, hway⟩ := ihbelow hline.below j hj
      exact ⟨n, Nat.le_refl n, hway.up⟩
    · obtain ⟨k, hk, hway⟩ := ihrest hline.tail j hj
      exact ⟨k, Nat.le_of_succ_le hk, hway⟩

/-! ## One way to each number -/

/-- What can be reached is a forest: there is one way to each number. -/
def IsReachedOnce (a : Arena α) : Prop := ∀ i, a.Reachable i → ∃! path, a.Leads path i

theorem Leads.exists_through {path : List Nat} {p c : Nat} (hp : a.Leads path p)
    (h : TransGen a.Lists p c) : ∃ k, a.LeadsThrough (k :: path) c := by
  induction h with
  | single hc =>
    obtain ⟨k, hk⟩ := hp.exists_child hc
    exact ⟨k, hk.through⟩
  | tail _ hc ih =>
    obtain ⟨k, down, hdown⟩ := ih
    obtain ⟨k', hk'⟩ := hdown.exists_child hc
    exact ⟨k, k' :: down, hk'⟩

namespace IsReachedOnce

variable (h : a.IsReachedOnce)
include h

theorem unique {path path' : List Nat} {i : Nat} (hi : a.Leads path i) (hi' : a.Leads path' i) :
    path = path' := (h i hi.reachable).unique hi hi'

theorem not_through {path : List Nat} {i k : Nat} (hi : a.Leads path i) :
    ¬a.LeadsThrough (k :: path) i := by
  rintro ⟨down, hway⟩
  have hlength := congrArg List.length (h.unique hi hway)
  rw [length_append, length_cons] at hlength
  omega

theorem place_eq {path : List Nat} {i k k' : Nat} (hk : a.LeadsThrough (k :: path) i)
    (hk' : a.LeadsThrough (k' :: path) i) : k = k' := by
  obtain ⟨down, hway⟩ := hk
  obtain ⟨down', hway'⟩ := hk'
  exact (cons.inj (append_inj' (h.unique hway hway') rfl).2).1

theorem isAcyclic : a.IsAcyclic := by
  intro i hi hcycle
  obtain ⟨path, hpath⟩ := hi.exists_leads
  obtain ⟨k, hk⟩ := hpath.exists_through hcycle
  exact h.not_through hpath hk

theorem nodup_of_traversal {is out : List Nat} (hout : a.Traversal is out) {n : Nat}
    {path : List Nat} (hline : a.InLine n path is) : out.Nodup := by
  induction hout generalizing n path with
  | nil => exact nodup_nil
  | @cons i is below rest hbelow hrest ihbelow ihrest =>
    -- what is below a slot is led to through it, and no way goes through its own end
    have hfirst : i ∉ below := by
      intro hmem
      obtain ⟨k, _, hway⟩ := hbelow.exists_through hline.below i hmem
      exact h.not_through hline.head hway
    -- what comes later is led to through another place of the same list
    have hlater : ∀ j ∈ i :: below, j ∉ rest := by
      have hthrough : ∀ j ∈ i :: below, a.LeadsThrough (n :: path) j := by
        rw [forall_mem_cons]
        refine ⟨hline.head.through, fun j hj => ?_⟩
        obtain ⟨k, _, hway⟩ := hbelow.exists_through hline.below j hj
        exact hway.up
      intro j hj hmem
      obtain ⟨k, hk, hway⟩ := hrest.exists_through hline.tail j hmem
      have hplace := h.place_eq (hthrough j hj) hway
      omega
    rw [← cons_append, nodup_append]
    refine ⟨nodup_cons.mpr ⟨hfirst, ihbelow hline.below⟩, ihrest hline.tail, ?_⟩
    rintro j hj j' hj' rfl
    exact hlater j hj hj'

theorem nodup_walk : a.walk.Nodup :=
  h.nodup_of_traversal h.isAcyclic.traversal_walk a.inLine_roots

theorem mem_walk_iff {i : Nat} : i ∈ a.walk ↔ a.Reachable i := by
  constructor
  · intro hi
    obtain ⟨_, _, down, hway⟩ := h.isAcyclic.traversal_walk.exists_through a.inLine_roots i hi
    exact hway.reachable
  · exact h.isAcyclic.traversal_walk.mem_of_reachable

theorem idxOf_lt_of_lists {p c : Nat} (hp : a.Reachable p) (hc : TransGen a.Lists p c) :
    a.walk.idxOf p < a.walk.idxOf c := by
  have hstep : ∀ {p c}, a.Reachable p → a.Lists p c → a.walk.idxOf p < a.walk.idxOf c :=
    fun hp hc => idxOf_lt_idxOf h.nodup_walk
      (h.isAcyclic.traversal_walk.pair_sublist (h.mem_walk_iff.mpr hp) hc)
  induction hc with
  | single hc => exact hstep hp hc
  | tail hpc hc ih => exact ih.trans (hstep (hp.transGen hpc) hc)

end IsReachedOnce

/-! ## Where there is one way -/

theorem isReachedOnce_of_apart (hroots : a.roots.Nodup)
    (hchildren : ∀ p, a.Reachable p → (a.childIndices p).Nodup)
    (hroot : ∀ p c, a.Reachable p → a.Lists p c → c ∉ a.roots)
    (hparent : ∀ p q c, a.Reachable p → a.Reachable q → a.Lists p c → a.Lists q c → p = q) :
    a.IsReachedOnce := by
  have hunique : ∀ {path i}, a.Leads path i → ∀ {path'}, a.Leads path' i → path = path' := by
    intro path i h
    -- the induction is on the first way; the other one has to end in the same step
    induction h with
    | @root k i hi =>
      intro path' h'
      cases h' with
      | root hi' =>
        have hlt := (List.getElem?_eq_some_iff.mp hi).1
        rw [(getElem?_inj hlt hroots).mp (hi.trans hi'.symm)]
      | child hp hc =>
        have hlists := lists_iff.mpr (mem_of_getElem? hc)
        exact absurd (mem_of_getElem? hi) (hroot _ _ hp.reachable hlists)
    | @child path p k c hp hc ih =>
      have hlists := lists_iff.mpr (mem_of_getElem? hc)
      intro path' h'
      cases h' with
      | root hi => exact absurd (mem_of_getElem? hi) (hroot _ _ hp.reachable hlists)
      | child hq hc' =>
        cases hparent _ _ _ hp.reachable hq.reachable hlists (lists_iff.mpr (mem_of_getElem? hc'))
        have hlt := (List.getElem?_eq_some_iff.mp hc).1
        rw [ih hq, (getElem?_inj hlt (hchildren p hp.reachable)).mp (hc.trans hc'.symm)]
  intro i hi
  obtain ⟨path, hpath⟩ := hi.exists_leads
  exact ⟨path, hpath, fun _ hpath' => hunique hpath' hpath⟩

theorem IsForest.isReachedOnce (h : a.IsForest) : a.IsReachedOnce := by
  have hroot : ∀ p c, a.Reachable p → a.Lists p c → c ∉ a.roots := by
    intro p c hp hc hmem
    obtain ⟨s, hs, hnone⟩ := h.parent_of_root c hmem
    obtain ⟨t, ht, hparent⟩ := h.names_of_lists p c hp hc
    cases hs.symm.trans ht
    rw [hnone] at hparent
    cases hparent
  refine isReachedOnce_of_apart h.roots_nodup (fun p hp => ?_) hroot fun p q c hp hq hc hc' => ?_
  · refine nodup_iff_count_le_one.mpr fun c => ?_
    by_cases hc : c ∈ a.childIndices p
    · obtain ⟨s, hs, hc⟩ := lists_iff.mpr hc
      rw [childIndices_of_get? hs, h.listed_once p s hp hs c hc]
    · rw [count_eq_zero_of_not_mem hc]
      exact Nat.zero_le 1
  · exact (h.listed c (hp.lists hc) (hroot p c hp hc)).unique ⟨hp, hc⟩ ⟨hq, hc'⟩

def links (a : Arena α) : List Nat := a.roots ++ a.slots.toList.flatMap (·.children)

theorem mem_slots_of_get? {p : Nat} {s : Slot α} (h : a.get? p = some s) : s ∈ a.slots.toList :=
  mem_of_getElem? (by rwa [Array.getElem?_toList])

theorem mem_links_iff {i : Nat} : i ∈ a.links ↔ i ∈ a.roots ∨ ∃ p, a.Lists p i := by
  have hlists : (∃ p, a.Lists p i) ↔ ∃ s ∈ a.slots.toList, i ∈ s.children := by
    constructor
    · rintro ⟨p, s, hs, hi⟩
      exact ⟨s, mem_slots_of_get? hs, hi⟩
    · rintro ⟨s, hs, hi⟩
      obtain ⟨p, hp⟩ := mem_iff_getElem?.mp hs
      exact ⟨p, s, by rwa [Array.getElem?_toList] at hp, hi⟩
  rw [links, mem_append, mem_flatMap, hlists]

section
variable (hpairs : a.slots.toList.Pairwise (Function.onFun Disjoint (·.children)))
include hpairs

theorem not_lists_of_lt {p q c : Nat} (hlt : p < q) (hp : a.Lists p c) : ¬a.Lists q c := by
  rintro ⟨t, ht, hct⟩
  obtain ⟨s, hs, hcs⟩ := hp
  rw [get?, ← Array.getElem?_toList] at hs ht
  obtain ⟨hi, rfl⟩ := List.getElem?_eq_some_iff.mp hs
  obtain ⟨hj, rfl⟩ := List.getElem?_eq_some_iff.mp ht
  exact pairwise_iff_getElem.mp hpairs p q hi hj hlt hcs hct

theorem eq_of_lists {p q c : Nat} (hp : a.Lists p c) (hq : a.Lists q c) : p = q := by
  rcases Nat.lt_trichotomy p q with hlt | heq | hlt
  · exact absurd hq (not_lists_of_lt hpairs hlt hp)
  · exact heq
  · exact absurd hp (not_lists_of_lt hpairs hlt hq)

end

theorem isReachedOnce_of_nodup_links (h : a.links.Nodup) : a.IsReachedOnce := by
  obtain ⟨hroots, hchildren, hapart⟩ := nodup_append.mp h
  obtain ⟨hnodup, hpairs⟩ := nodup_flatMap.mp hchildren
  have honce : ∀ p, (a.childIndices p).Nodup := by
    intro p
    cases hs : a.get? p with
    | none => simp [childIndices, hs]
    | some s =>
      rw [childIndices_of_get? hs]
      exact hnodup s (mem_slots_of_get? hs)
  have hroot : ∀ p c, a.Lists p c → c ∉ a.roots := by
    rintro p c ⟨s, hs, hc⟩ hmem
    exact hapart c hmem c (mem_flatMap.mpr ⟨s, mem_slots_of_get? hs, hc⟩) rfl
  exact isReachedOnce_of_apart hroots (fun p _ => honce p) (fun p c _ => hroot p c)
    fun _ _ _ _ _ hp hq => eq_of_lists hpairs hp hq

/-- **A forest is walked in preorder.** The loop over the stack ends and meets what the walk with a
budget does: after each root the traversals of its children, every number that can be reached once,
and before those below it. -/
theorem walksTo_walk (h : a.IsReachedOnce) : a.WalksTo a.walk ∧ a.Traversal a.roots a.walk ∧
    a.walk.Nodup ∧ (∀ i, i ∈ a.walk ↔ a.Reachable i) ∧
      ∀ i j, a.Reachable i → TransGen a.Lists i j → a.walk.idxOf i < a.walk.idxOf j :=
  ⟨walksTo_iff.mpr h.isAcyclic.traversal_walk, h.isAcyclic.traversal_walk, h.nodup_walk,
    fun _ => h.mem_walk_iff, fun _ _ => h.idxOf_lt_of_lists⟩

def dot : Element Float := ⟨.ellipse, Props.plain "dot" "dot" default default⟩

def boughs : Arena Float :=
  ⟨#[⟨dot, none, [2, 5]⟩, ⟨dot, none, []⟩, ⟨dot, some 0, [3]⟩, ⟨dot, some 2, []⟩], [0, 1]⟩

theorem boughs_walksTo : boughs.IsReachedOnce ∧ boughs.walk = [0, 2, 3, 5, 1] ∧
    boughs.WalksTo boughs.walk ∧ boughs.Traversal boughs.roots boughs.walk ∧ boughs.walk.Nodup ∧
      (∀ i, i ∈ boughs.walk ↔ boughs.Reachable i) ∧
        ∀ i j, boughs.Reachable i → TransGen boughs.Lists i j →
          boughs.walk.idxOf i < boughs.walk.idxOf j := by
  have honce : boughs.IsReachedOnce := isReachedOnce_of_nodup_links (by decide)
  have hwalk : boughs.walk = [0, 2, 3, 5, 1] := by
    simp [boughs, walk, walkFrom, childIndices, get?, size]
  exact ⟨honce, hwalk, walksTo_walk honce⟩

end Arena

theorem normalize_walksTo {α : Type} [Scalar α] [Circular α] (o : NormalizeOptions α) (c : Context)
    (selection : List (HostNode α)) {a : Arena α} (h : (normalizeInto o c selection).1 = .ok a) :
    a.IsReachedOnce ∧ a.WalksTo a.walk := by
  have honce : a.IsReachedOnce := by
    obtain ⟨_, rfl⟩ := normalizeSources_eq_ok_iff.mp h
    exact (Arena.restructure_holds o _).isForest.isReachedOnce
  exact ⟨honce, Arena.walksTo_iff.mpr honce.isAcyclic.traversal_walk⟩

end Artboard
