import Artboard.Proofs.Steps

/-!
# Runs in place

A visit to a source gathers the source's events and, unless one of them ends it, leaves the arena
showing the scenes that a build makes, and the slots it abandons. So a run in place gives the arena
and the context of any other run, and a missing id is all that can end it.
-/

open List

namespace Artboard

namespace Run

variable {α β γ : Type}

/-- The step gathers the events. If none of them ends it, its result and the arena it leaves meet
the condition. -/
def Gathers (x : Run α β) (a : Arena α) (events : List (Event α)) (post : β → Arena α → Prop) :
    Prop :=
  ∀ c : Context, match c.gather events with
    | (.ok _, c') => ∃ r a', x ⟨a, c⟩ = (.ok r, ⟨a', c'⟩) ∧ post r a'
    | (.error e, c') => ∃ a', x ⟨a, c⟩ = (.error (.missing e), ⟨a', c'⟩)

section
variable {x : Run α β} {f : β → Run α γ} {a a' : Arena α} {r : β}
variable {events events' : List (Event α)} {post : β → Arena α → Prop} {post' : γ → Arena α → Prop}

theorem gathers_record (a : Arena α) (events : List (Event α)) :
    (record events).Gathers a events fun _ a' => a' = a := by
  intro c
  simp only [record]
  obtain ⟨outcome, c'⟩ := c.gather events
  cases outcome with
  | ok u => exact ⟨u, a, rfl, rfl⟩
  | error e => exact ⟨a, rfl⟩

theorem gathers_throw (a : Arena α) (e : MissingId α) (post : β → Arena α → Prop) :
    (throw (.missing e) : Run α β).Gathers a [.missing e] post := fun _ => ⟨a, rfl⟩

theorem Yields.gathers (h : x.Yields a r a') (hpost : post r a') : x.Gathers a [] post :=
  fun c => ⟨r, a', h c, hpost⟩

theorem Gathers.bind (h : x.Gathers a events post)
    (h' : ∀ r a', post r a' → (f r).Gathers a' events' post') :
    (x >>= f).Gathers a (events ++ events') post' := by
  intro c
  have hx := h c
  rw [Context.gather_append]
  generalize c.gather events = gathered at hx ⊢
  obtain ⟨outcome, c'⟩ := gathered
  cases outcome with
  | ok u =>
    obtain ⟨r, a', heq, hpost⟩ := hx
    rw [bind_apply, heq]
    exact h' r a' hpost c'
  | error e =>
    obtain ⟨a', heq⟩ := hx
    refine ⟨a', ?_⟩
    rw [bind_apply, heq]

theorem Gathers.bind_yields (h : x.Gathers a events post)
    (h' : ∀ r a', post r a' → ∃ r' a'', (f r).Yields a' r' a'' ∧ post' r' a'') :
    (x >>= f).Gathers a events post' := by
  rw [← append_nil events]
  refine h.bind fun r a' hpost => ?_
  obtain ⟨r', a'', hyields, hpost'⟩ := h' r a' hpost
  exact hyields.gathers hpost'

theorem Yields.bind_gathers (h : x.Yields a r a') (h' : (f r).Gathers a' events post') :
    (x >>= f).Gathers a events post' := by
  intro c
  rw [bind_apply, h c]
  exact h' c

end

end Run

/-! ## Visits -/

namespace Source

open Scene

variable {α : Type} [Scalar α] [Circular α] (o : NormalizeOptions α)

omit [Scalar α] [Circular α] in
theorem shows_store {a : Arena α} {l : Ledger α} (hm : a.Mirrors l) (e : Element α)
    (p : Option Nat) : (a.store ⟨e, p, []⟩).Shows p [Scene.node l.next e []] := by
  rw [Arena.shows_singleton]
  exact ⟨(a.get?_store _ _).trans (if_pos hm.size_eq.symm), Arena.shows_nil _ _⟩

theorem visited_children {p : Option Nat} {e : Element α} {cs : List (Source α)}
    {a a' : Arena α} {l l' l₁ : Ledger α} {kids : List (Scene α)} (hm : a.Mirrors l)
    (hl₁ : l₁ = { l with next := l.next + 1 }) (hkids : buildAll o (some l.next) cs l₁ = (kids, l'))
    (h : Arena.Advances [] (a.store ⟨e, p, []⟩) l₁ a' l') :
    a'.get? l.next = some ⟨e, p, []⟩ ∧ (l.next :: numbersOfAll kids).Nodup ∧
      (∀ j ∈ l.next :: numbersOfAll kids, j ∉ l'.numbers ∧ ¬j < a.size) ∧
      Arena.Advances [] a l a' l' := by
  subst hl₁
  have hnew : (a.store ⟨e, p, []⟩).get? l.next = some ⟨e, p, []⟩ := by
    rw [Arena.get?_store, if_pos hm.size_eq.symm]
  have hall := (Arena.Advances.store hm ⟨e, p, []⟩).trans h nofun
  have haccounts := ((Ledger.Accounts.allocate l).trans
    ((buildAll_accounts o (some l.next) cs { l with next := l.next + 1 }).frame [l.next])).perm
      (Perm.refl _) perm_append_comm
  rw [hkids] at haccounts
  obtain ⟨hnodup, hmade⟩ := haccounts.made_spec nodup_nil nofun (fun _ => hm.lt) hall.suffix
  refine ⟨h.sameOff.get?_of_some hnew not_mem_nil, hnodup, fun j hj => ?_, hall⟩
  obtain ⟨hfree, hlarge⟩ := hmade j hj
  rw [hm.size_eq]
  exact ⟨hfree, fun hlt => absurd (hlarge hlt) not_mem_nil⟩

mutual

theorem visit_gathers (p : Option Nat) : ∀ (s : Source α) {a : Arena α} {l : Ledger α},
    a.Mirrors l → (visit o p s).Gathers a (events s) fun r a' =>
      r = (build o p s l).1.map slot ∧ a'.Shows p (build o p s l).1.toList ∧
        Arena.Advances [] a l a' (build o p s l).2
  | node d cs, a, l, hm => by
    -- the children are visited while their parent stands in its slot with none
    have ih := fun (e : Element α) =>
      visitAll_gathers (some l.next) cs (Arena.Advances.store hm ⟨e, p, []⟩).mirrors
    unfold visit build events
    cases hkept : d.isKept with
    | false =>
      refine (Run.gathers_record a d.omissionEvents).bind_yields ?_
      rintro _ _ rfl
      exact ⟨none, _, Run.yields_pure none _, rfl, Arena.shows_nil _ p, .refl [] hm⟩
    | true =>
      obtain ⟨e, he⟩ := Draft.exists_snapshot hkept
      have hstore := Run.yields_store a ⟨e, p, []⟩
      rw [hm.size_eq] at hstore
      simp only [he, Bool.not_true, Bool.false_eq_true, if_false]
      split
      · exact Run.gathers_throw a d.missingId _
      · refine (Run.gathers_record a d.snapshotEvents).bind ?_
        rintro _ _ rfl
        refine hstore.bind_gathers ?_
        cases hk : d.kind with
        | container =>
          cases he.symm.trans (Draft.snapshot_container hk)
          refine (ih _).bind_yields ?_
          rintro _ a₁ ⟨rfl, hshows, hkids⟩
          obtain ⟨hi, hnodup, hnew, hall⟩ := visited_children o hm rfl rfl hkids
          obtain ⟨a', hfinish, hshows', hadvances⟩ := Run.finishContainer_shows (o := o)
            d.declared.isSome hi rfl hshows hnodup (fun _ => isBare_of_mem_buildAll o) hall.mirrors
              fun j hj => (hnew j hj).1
          exact ⟨_, a', hfinish.bind (Run.yields_pure _ a'), rfl, hshows',
            hall.trans hadvances fun j hj hlt => absurd hlt (hnew j hj).2⟩
        | group =>
          refine (ih e).bind_yields ?_
          rintro _ a₁ ⟨rfl, hshows, hkids⟩
          obtain ⟨hi, hnodup, hnew, hall⟩ := visited_children o hm rfl rfl hkids
          obtain ⟨a', hfinish, hshows', hadvances⟩ := Run.finishGroup_shows (o := o) hi hshows hnodup
            (fun _ => isBare_of_mem_buildAll o) hall.mirrors fun j hj => (hnew j hj).1
          exact ⟨_, a', hfinish, rfl, hshows',
            hall.trans hadvances fun j hj hlt => absurd hlt (hnew j hj).2⟩
        | _ =>
          exact (Run.yields_pure (some l.next) _).gathers
            ⟨rfl, shows_store hm e p, Arena.Advances.store hm _⟩

theorem visitAll_gathers (p : Option Nat) : ∀ (ss : List (Source α)) {a : Arena α} {l : Ledger α},
    a.Mirrors l → (visitAll o p ss).Gathers a (eventsOfAll ss) fun r a' =>
      r = (buildAll o p ss l).1.map slot ∧ a'.Shows p (buildAll o p ss l).1 ∧
        Arena.Advances [] a l a' (buildAll o p ss l).2
  | [], a, l, hm => (Run.yields_pure [] a).gathers ⟨rfl, a.shows_nil p, .refl [] hm⟩
  | s :: ss, a, l, hm => by
    unfold visitAll eventsOfAll
    refine (visit_gathers p s hm).bind ?_
    rintro _ a₁ ⟨rfl, hshows, hfirst⟩
    refine (visitAll_gathers p ss hfirst.mirrors).bind_yields ?_
    rintro _ a₂ ⟨rfl, hshows', hothers⟩
    refine ⟨_, a₂, Run.yields_pure _ a₂, ?_, ?_, hfirst.trans hothers nofun⟩
    · rw [Option.toList_map, ← map_append]
      rfl
    · exact Arena.shows_append.mpr
        ⟨hshows.sameOff hothers.sameOff fun _ _ => not_mem_nil, hshows'⟩

end

end Source

/-! ## Runs -/

namespace Arena

variable {α : Type} {a : Arena α}

theorem addRoot_eq {i : Nat} {s : Slot α} (hs : a.get? i = some s) (hp : s.parent = none) :
    a.addRoot i = { a with roots := a.roots ++ [i] } := by
  rw [addRoot, if_pos (get?_lt hs)]
  refine ext_get? rfl fun j => ?_
  change (a.modify i fun s => { s with parent := none }).get? j = a.get? j
  rw [get?_modify]
  split
  · rename_i hj
    rw [hj, hs, Option.map_some, ← hp]
  · rfl

theorem foldl_addRoot_eq : ∀ {top : List Nat} {a : Arena α},
    (∀ i ∈ top, ∃ s, a.get? i = some s ∧ s.parent = none) →
      top.foldl addRoot a = { a with roots := a.roots ++ top }
  | [], a, _ => by rw [append_nil]; rfl
  | i :: top, a, h => by
    rw [forall_mem_cons] at h
    obtain ⟨⟨s, hs, hp⟩, htop⟩ := h
    rw [foldl_cons, addRoot_eq hs hp, foldl_addRoot_eq (a := { a with roots := a.roots ++ [i] }) htop,
      append_assoc]
    rfl

theorem size_ofSlots (numbered : List (Nat × Slot α)) (roots : List Nat) :
    (ofSlots numbered roots).size = numbered.length := by
  simp [size, ofSlots, length_mergeSort]

theorem Mirrors.get?_ofScenes {l : Ledger α} {scenes : List (Scene α)} (hm : a.Mirrors l)
    (hshows : a.Shows none scenes)
    (hperm : (Scene.slotsOfAll none scenes ++ l.abandoned).map (·.1) ~ List.range l.next) (j : Nat) :
    a.get? j = (ofScenes scenes l).get? j := by
  have hsize : (ofScenes scenes l).size = a.size := by
    have hlength := hperm.length_eq
    rw [length_map, length_range] at hlength
    rw [ofScenes, size_ofSlots, hlength, hm.size_eq]
  by_cases hj : j < l.next
  · obtain ⟨⟨k, t⟩, ht, rfl⟩ := mem_map.mp (hperm.mem_iff.mpr (mem_range.mpr hj))
    rw [ofScenes, get?_ofSlots _ hperm ht]
    rcases mem_append.mp ht with ht | ht
    · exact hshows _ ht
    · exact hm.get?_eq _ ht
  · rw [← hm.size_eq] at hj
    have hj' : ¬j < (ofScenes scenes l).size := by rwa [hsize]
    rw [get?_eq_none (Nat.le_of_not_lt hj), get?_eq_none (Nat.le_of_not_lt hj')]

end Arena

section
variable {α : Type} [Scalar α] [Circular α]

/-- A run in place is a run. -/
theorem normalizeSourcesInPlace_eq (o : NormalizeOptions α) (c : Context) (ss : List (Source α)) :
    normalizeSourcesInPlace o c ss =
      ((normalizeSources o c ss).1.mapError .missing, (normalizeSources o c ss).2) := by
  have hempty : (Arena.empty : Arena α).Mirrors ⟨0, []⟩ :=
    ⟨rfl, fun _ hq => absurd hq not_mem_nil⟩
  have hgathers := Source.visitAll_gathers o none ss hempty c.reset
  unfold normalizeSourcesInPlace normalizeSources
  generalize c.reset.gather (Source.eventsOfAll ss) = gathered at hgathers ⊢
  obtain ⟨outcome, context⟩ := gathered
  cases outcome with
  | error e =>
    obtain ⟨a', heq⟩ := hgathers
    rw [heq]
    rfl
  | ok u =>
    obtain ⟨_, a', heq, rfl, hshows, hadvances⟩ := hgathers
    have htop : ∀ i ∈ (Source.buildAll o none ss ⟨0, []⟩).1.map Scene.slot,
        ∃ s, a'.get? i = some s ∧ s.parent = none := by
      intro i hi
      obtain ⟨s, hs, rfl⟩ := mem_map.mp hi
      exact ⟨_, hshows.get?_slot hs, rfl⟩
    -- the scenes in the arena are all of it, and their tops become the roots
    have harena : ((Source.buildAll o none ss ⟨0, []⟩).1.map Scene.slot).foldl Arena.addRoot a' =
        restructure o ss := by
      rw [Arena.foldl_addRoot_eq htop, hadvances.sameOff.roots_eq]
      exact Arena.ext_get? rfl
        (hadvances.mirrors.get?_ofScenes hshows (Arena.numbers_perm_range o ss))
    rw [heq]
    exact congrArg (fun b => (Except.ok b, context)) harena

theorem normalizeSourcesInPlace_eq_error_iff {o : NormalizeOptions α} {c : Context}
    {ss : List (Source α)} {f : Failure α} : (normalizeSourcesInPlace o c ss).1 = .error f ↔
      ∃ s, (Source.survivorsOfAll ss).find? (·.draft.lacksId) = some s ∧
        f = .missing s.draft.missingId := by
  rw [normalizeSourcesInPlace_eq]
  cases hout : (normalizeSources o c ss).1 with
  | error e =>
    obtain ⟨s, hs, rfl⟩ := normalizeSources_eq_error_iff.mp hout
    simp [hs, Except.mapError, eq_comm]
  | ok a =>
    refine iff_of_false nofun ?_
    rintro ⟨s, hs, _⟩
    cases hout.symm.trans (normalizeSources_eq_error_iff.mpr ⟨s, hs, rfl⟩)

theorem exists_normalizeSourcesInPlace_eq_error_iff {o : NormalizeOptions α} {c : Context}
    {ss : List (Source α)} : (∃ f, (normalizeSourcesInPlace o c ss).1 = .error f) ↔
      ∃ s ∈ Source.survivorsOfAll ss, s.draft.lacksId = true := by
  rw [← find?_isSome, Option.isSome_iff_exists]
  constructor
  · rintro ⟨f, hf⟩
    obtain ⟨s, hs, _⟩ := normalizeSourcesInPlace_eq_error_iff.mp hf
    exact ⟨s, hs⟩
  · rintro ⟨s, hs⟩
    exact ⟨_, normalizeSourcesInPlace_eq_error_iff.mpr ⟨s, hs, rfl⟩⟩

/-- **A run fails if and only if a survivor lacks the id it needs, and then with the first of these.**
No number without a slot is looked for on the way, and no position without a child. -/
theorem normalizeInPlace_error_iff (o : NormalizeOptions α) (c : Context)
    (selection : List (HostNode α)) :
    normalizeInPlace o c selection =
      ((normalizeInto o c selection).1.mapError .missing, (normalizeInto o c selection).2) ∧
    ((∃ f, (normalizeInPlace o c selection).1 = .error f) ↔
      ∃ s ∈ Source.survivorsOfAll (HostNode.toSources selection), s.draft.lacksId = true) ∧
    ∀ f, (normalizeInPlace o c selection).1 = .error f ↔
      ∃ s, (Source.survivorsOfAll (HostNode.toSources selection)).find? (·.draft.lacksId) = some s ∧
        f = .missing ⟨s.draft.kind.label, s.draft.props.name, s.draft.props.geometry.x,
          s.draft.props.geometry.y⟩ :=
  ⟨normalizeSourcesInPlace_eq o c (HostNode.toSources selection),
    exists_normalizeSourcesInPlace_eq_error_iff, fun _ => normalizeSourcesInPlace_eq_error_iff⟩

end

end Artboard
