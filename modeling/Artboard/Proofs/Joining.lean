import Artboard.Proofs.Unfolding

/-!
# Selections side by side

A run that goes on from what another gathered adds what it would gather alone. What a source is made
into does not depend on its neighbours either, so normalizing two selections as one is normalizing
each of them.
-/

open List

namespace Artboard

/-! ## Two contexts -/

namespace Context

/-- The runs of `later` put into `base`, one id after the other. -/
def overlay (base later : List (String × List TextRun)) : List (String × List TextRun) :=
  later.foldl (fun l p => setIn p.1 p.2 l) base

/-- What `d` warns of in addition to `c`, and the runs of `c` overwritten with those of `d`. -/
def join (c d : Context) : Context where
  warnings := c.warnings ++ d.warnings.filter fun m => !c.warnings.contains m
  runs := overlay c.runs d.runs

theorem overlay_cons (base later : List (String × List TextRun)) (k : String) (v : List TextRun) :
    overlay base ((k, v) :: later) = overlay (setIn k v base) later := rfl

theorem setIn_setIn (k : String) (v w : List TextRun) :
    ∀ l, setIn k w (setIn k v l) = setIn k w l
  | [] => by simp [setIn]
  | (j, u) :: l => by
    have ih := setIn_setIn k v w l
    by_cases hj : j = k
    · simp [setIn, hj]
    · simp [setIn, hj, ih]

theorem mem_keys_setIn (k : String) (v : List TextRun) {i : String} :
    ∀ l : List (String × List TextRun), i ∈ (setIn k v l).map (·.1) ↔ i = k ∨ i ∈ l.map (·.1)
  | [] => by simp [setIn]
  | (j, u) :: l => by
    have ih := mem_keys_setIn k v (i := i) l
    by_cases hj : j = k
    · subst hj
      simp [setIn]
    · simp only [setIn, hj, if_false, map_cons, mem_cons, ih]
      exact or_left_comm

theorem setIn_comm {k j : String} (v w : List TextRun) (hkj : k ≠ j) :
    ∀ {l : List (String × List TextRun)}, k ∈ l.map (·.1) →
      setIn k v (setIn j w l) = setIn j w (setIn k v l)
  | (i, u) :: l, h => by
    rw [map_cons, mem_cons] at h
    by_cases hk : i = k
    · subst hk
      simp [setIn, hkj]
    · have ih := setIn_comm v w hkj (h.resolve_left fun he => hk he.symm)
      by_cases hj : i = j
      · subst hj
        simp [setIn, hk]
      · simp [setIn, hk, hj, ih]

theorem setIn_overlay {k : String} (v : List TextRun) :
    ∀ {later base : List (String × List TextRun)}, k ∉ later.map (·.1) → k ∈ base.map (·.1) →
      setIn k v (overlay base later) = overlay (setIn k v base) later
  | [], _, _, _ => rfl
  | (j, w) :: later, base, hlater, hbase => by
    rw [map_cons, mem_cons, not_or] at hlater
    have hmem := (mem_keys_setIn j w base).mpr (.inr hbase)
    rw [overlay_cons, overlay_cons, setIn_overlay v hlater.2 hmem, setIn_comm v w hlater.1 hbase]

theorem overlay_setIn (k : String) (v : List TextRun) :
    ∀ {later base : List (String × List TextRun)}, (later.map (·.1)).Nodup →
      overlay base (setIn k v later) = setIn k v (overlay base later)
  | [], _, _ => rfl
  | (j, w) :: later, base, h => by
    rw [map_cons, nodup_cons] at h
    by_cases hj : j = k
    · subst hj
      have hmem := (mem_keys_setIn j w base).mpr (.inl rfl)
      rw [setIn, if_pos rfl, overlay_cons, overlay_cons, setIn_overlay v h.1 hmem, setIn_setIn]
    · rw [setIn, if_neg hj, overlay_cons, overlay_cons]
      exact overlay_setIn k v h.2

theorem nodup_keys_setIn (k : String) (v : List TextRun) :
    ∀ {l : List (String × List TextRun)}, (l.map (·.1)).Nodup → ((setIn k v l).map (·.1)).Nodup
  | [], _ => by simp [setIn]
  | (j, u) :: l, h => by
    rw [map_cons, nodup_cons] at h
    by_cases hj : j = k
    · subst hj
      simpa [setIn] using h
    · have hnot : j ∉ (setIn k v l).map (·.1) := by
        rw [mem_keys_setIn, not_or]
        exact ⟨hj, h.1⟩
      rw [setIn, if_neg hj, map_cons, nodup_cons]
      exact ⟨hnot, nodup_keys_setIn k v h.2⟩

theorem join_warn (c d : Context) (m : String) : (c.join d).warn m = c.join (d.warn m) := by
  by_cases hd : m ∈ d.warnings
  · by_cases hc : m ∈ c.warnings <;> simp [join, warn, hd, hc]
  · by_cases hc : m ∈ c.warnings <;> simp [join, warn, hd, hc]

theorem join_setRuns (c : Context) {d : Context} (hd : (d.runs.map (·.1)).Nodup) (k : String)
    (v : List TextRun) : (c.join d).setRuns k v = c.join (d.setRuns k v) := by
  simp only [join, setRuns, overlay_setIn k v hd]

theorem join_empty (c : Context) : c.join .empty = c := by
  simp [join, empty, overlay]

theorem gather_join {α : Type} (c : Context) (events : List (Event α)) : ∀ {d : Context},
    (d.runs.map (·.1)).Nodup →
      (c.join d).gather events = ((d.gather events).1, c.join (d.gather events).2) := by
  induction events with
  | nil =>
    intro d _
    rfl
  | cons e events ih =>
    intro d hd
    cases e with
    | warning m =>
      have hkeys : ((d.warn m).runs.map (·.1)).Nodup := by rwa [runs_warn]
      rw [gather, gather, join_warn, ih hkeys]
    | runs id rs =>
      rw [gather, gather, join_setRuns c hd, ih (nodup_keys_setIn id rs hd)]
    | missing x => rfl

theorem gather_eq_join {α : Type} (c : Context) (events : List (Event α)) :
    c.gather events = ((empty.gather events).1, c.join (empty.gather events).2) := by
  have h := gather_join c events (d := .empty) nodup_nil
  rwa [join_empty] at h

end Context

/-! ## Two lists of sources -/

theorem Source.figures_append {α : Type} [Scalar α] [Circular α] (o : NormalizeOptions α)
    (ss ts : List (Source α)) : figures o (ss ++ ts) = figures o ss ++ figures o ts := by
  induction ss with
  | nil => rfl
  | cons s ss ih => rw [cons_append, figures, figures, ih, append_assoc]

def Arena.Joins {α : Type} (ab a b : Arena α) : Prop :=
  ∃ fs gs, a.UnfoldsAll a.roots fs ∧ b.UnfoldsAll b.roots gs ∧ ab.UnfoldsAll ab.roots (fs ++ gs)

section
variable {α : Type} [Scalar α] [Circular α]

theorem restructure_append (o : NormalizeOptions α) (ss ts : List (Source α)) :
    (restructure o (ss ++ ts)).Joins (restructure o ss) (restructure o ts) := by
  refine ⟨_, _, Arena.restructure_unfoldsAll o ss, Arena.restructure_unfoldsAll o ts, ?_⟩
  rw [← Source.figures_append]
  exact Arena.restructure_unfoldsAll o (ss ++ ts)

theorem normalizeSources_append (o : NormalizeOptions α) (c d c' : Context)
    (ss ts : List (Source α)) :
    normalizeSources o c' (ss ++ ts) =
      match normalizeSources o c ss, normalizeSources o d ts with
      | (.ok _, cs), (.ok _, ct) => (.ok (restructure o (ss ++ ts)), cs.join ct)
      | (.ok _, cs), (.error e, ct) => (.error e, cs.join ct)
      | (.error e, cs), _ => (.error e, cs) := by
  unfold normalizeSources
  have hreset : ∀ c : Context, c.reset = .empty := fun _ => rfl
  rw [hreset, hreset, hreset, Source.eventsOfAll_append, Context.gather_append]
  obtain ⟨outcome, cs⟩ := Context.empty.gather (Source.eventsOfAll ss)
  cases outcome with
  | error e => rfl
  | ok u =>
    simp only [Context.gather_eq_join cs]
    obtain ⟨outcome', ct⟩ := Context.empty.gather (Source.eventsOfAll ts)
    cases outcome' <;> rfl

/-- **Selections side by side are normalized each as if it were alone.** -/
theorem normalize_append (o : NormalizeOptions α) (c d c' : Context) (A B : List (HostNode α)) :
    (∀ a b, (normalizeInto o c A).1 = .ok a → (normalizeInto o d B).1 = .ok b →
      ∃ ab, (normalizeInto o c' (A ++ B)).1 = .ok ab ∧ ab.Joins a b ∧
        (normalizeInto o c' (A ++ B)).2 = (normalizeInto o c A).2.join (normalizeInto o d B).2) ∧
    (∀ e, (normalizeInto o c A).1 = .error e → (normalizeInto o c' (A ++ B)).1 = .error e) ∧
    ∀ a e, (normalizeInto o c A).1 = .ok a → (normalizeInto o d B).1 = .error e →
      (normalizeInto o c' (A ++ B)).1 = .error e := by
  have hjoins : ∀ a b, (normalizeInto o c A).1 = .ok a → (normalizeInto o d B).1 = .ok b →
      (restructure o (HostNode.toSources A ++ HostNode.toSources B)).Joins a b := by
    intro a b ha hb
    obtain ⟨_, rfl⟩ := normalizeSources_eq_ok_iff.mp ha
    obtain ⟨_, rfl⟩ := normalizeSources_eq_ok_iff.mp hb
    exact restructure_append o _ _
  unfold normalizeInto at *
  rw [HostNode.toSources_append, normalizeSources_append o c d c']
  -- what remains only looks at the two outcomes
  generalize normalizeSources o c (HostNode.toSources A) = ra at hjoins ⊢
  generalize normalizeSources o d (HostNode.toSources B) = rb at hjoins ⊢
  obtain ⟨ra, ca⟩ := ra
  obtain ⟨rb, cb⟩ := rb
  refine ⟨fun a b ha hb => ?_, fun e ha => ?_, fun a e ha hb => ?_⟩
  · cases ha
    cases hb
    exact ⟨_, rfl, hjoins a b rfl rfl, rfl⟩
  · cases ha
    rfl
  · cases ha
    cases hb
    rfl

end

def caption : List (HostNode Float) :=
  [.node (.plain "1" "caption" .group ⟨0, 0, 40, 40, 0⟩)
    [.node { HostProps.plain "2" "text" .text ⟨0, 0, 40, 20, 0⟩ with characters := some "Yes" } [],
      .node (.plain "3" "blob" (.other "BLOB") ⟨0, 0, 1, 1, 0⟩) []]]

def untitled : List (HostNode Float) := [.node (.plain "" "frame" .frame ⟨0, 0, 10, 10, 0⟩) []]

theorem caption_append : (∃ a b ab, (normalizeInto default .empty caption).1 = .ok a ∧
    (normalizeInto default .empty card).1 = .ok b ∧
    (normalizeInto default .empty (caption ++ card)).1 = .ok ab ∧ ab.Joins a b) ∧
    ∃ e, (normalizeInto default .empty untitled).1 = .error e ∧
      (normalizeInto default .empty (untitled ++ card)).1 = .error e ∧
      (normalizeInto default .empty (card ++ untitled)).1 = .error e := by
  obtain ⟨hok, _, _⟩ := normalize_append default .empty .empty .empty caption card
  obtain ⟨_, hfirst, _⟩ := normalize_append default .empty .empty .empty untitled card
  obtain ⟨_, _, hsecond⟩ := normalize_append default .empty .empty .empty card untitled
  obtain ⟨ab, hab, hjoins, _⟩ := hok _ _ rfl rfl
  exact ⟨⟨_, _, ab, rfl, rfl, hab, hjoins⟩, _, rfl, hfirst _ rfl, hsecond _ _ rfl rfl⟩

end Artboard
