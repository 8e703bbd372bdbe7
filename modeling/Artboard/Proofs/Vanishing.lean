import Artboard.Code.Conversion
import Artboard.Proofs.Renumbering

/-!
# What code can be written for

A source vanishes if it is left out, or if it is a group of sources that all vanish. A selection with
the ids it needs comes to an empty arena if and only if all of it vanishes, and there is code in every
framework for any other. So a conversion fails in the same way for all of them.
-/

open List

namespace Artboard

namespace Source

variable {α : Type} [Scalar α]

inductive Vanishes : Source α → Prop
  | hidden {d : Draft α} {cs : List (Source α)} (h : d.props.visible = false) :
      Vanishes (node d cs)
  | unsupported {d : Draft α} {cs : List (Source α)} (h : d.kind.isSupported = false) :
      Vanishes (node d cs)
  | degenerate {d : Draft α} {cs : List (Source α)} (h : d.props.geometry.isDegenerate = true) :
      Vanishes (node d cs)
  | dissolved {d : Draft α} {cs : List (Source α)} (hk : d.kind = .group)
      (hcs : ∀ c ∈ cs, Vanishes c) : Vanishes (node d cs)

theorem vanishes_iff {d : Draft α} {cs : List (Source α)} :
    (node d cs).Vanishes ↔ d.isKept = false ∨ d.kind = .group ∧ ∀ c ∈ cs, c.Vanishes := by
  constructor
  · intro h
    cases h with
    | hidden h => exact .inl (by simp [Draft.isKept, h])
    | unsupported h => exact .inl (by simp [Draft.isKept, h])
    | degenerate h => exact .inl (by simp [Draft.isKept, h])
    | dissolved hk hcs => exact .inr ⟨hk, hcs⟩
  · rintro (h | ⟨hk, hcs⟩)
    · simp only [Draft.isKept, Bool.and_eq_false_iff, Bool.not_eq_false'] at h
      rcases h with (h | h) | h
      · exact .hidden h
      · exact .unsupported h
      · exact .degenerate h
    · exact .dissolved hk hcs

theorem not_vanishes {d : Draft α} {cs : List (Source α)} (hkept : d.isKept = true)
    (hk : d.kind ≠ .group) : ¬(node d cs).Vanishes := by
  simp [vanishes_iff, hkept, hk]

theorem vanishes_group_iff {d : Draft α} {cs : List (Source α)} (hkept : d.isKept = true)
    (hk : d.kind = .group) : (node d cs).Vanishes ↔ ∀ c ∈ cs, c.Vanishes := by
  simp [vanishes_iff, hkept, hk]

mutual

def Vanishes.decidable : ∀ s : Source α, Decidable s.Vanishes
  | node d cs =>
    @decidable_of_iff' _ (d.isKept = false ∨ d.kind = .group ∧ ∀ c ∈ cs, c.Vanishes) vanishes_iff
      (@instDecidableOr _ _ _ (@instDecidableAnd _ _ _ (Vanishes.allDecidable cs)))

def Vanishes.allDecidable : ∀ ss : List (Source α), Decidable (∀ s ∈ ss, s.Vanishes)
  | [] => .isTrue nofun
  | s :: ss =>
    @decidable_of_iff' _ (s.Vanishes ∧ ∀ t ∈ ss, t.Vanishes) forall_mem_cons
      (@instDecidableAnd _ _ (Vanishes.decidable s) (Vanishes.allDecidable ss))

end

instance (s : Source α) : Decidable s.Vanishes := Vanishes.decidable s

variable [Circular α] (o : NormalizeOptions α)

theorem vanishes_induction : Induction o fun ss fs => fs = [] ↔ ∀ s ∈ ss, s.Vanishes where
  nil := by simp
  append := fun hs hss => by
    rw [append_eq_nil_iff, hs, hss, forall_mem_singleton, forall_mem_cons]
  omitted := fun hkept => by simp [vanishes_iff, hkept]
  leaf := fun {d cs e} hkept hk _ => by
    have hg : d.kind ≠ .group := by
      intro hg
      rw [hg] at hk
      cases hk
    simp [not_vanishes hkept hg]
  container := fun {d cs f} hkept hk _ _ => by
    simp [not_vanishes hkept (hk.trans_ne nofun)]
  group := fun {d cs r} hkept hk ih hstep => by
    rw [forall_mem_singleton, vanishes_group_iff hkept hk, ← ih]
    cases hstep with
    | empty hcs => simp [hcs]
    | single f hcs => simp [hcs]
    | promoted b rest hcs => simp [hcs]
    | kept hcs =>
      have hne : figures o cs ≠ [] := ne_nil_of_length_pos (Nat.lt_of_lt_of_le Nat.two_pos hcs)
      simp [hne]

theorem figures_eq_nil_iff (ss : List (Source α)) :
    figures o ss = [] ↔ ∀ s ∈ ss, s.Vanishes := (vanishes_induction o).all ss

end Source

/-! ## Code for the arena of a run -/

theorem restructure_roots_eq_nil_iff {α : Type} [Scalar α] [Circular α] (o : NormalizeOptions α)
    (ss : List (Source α)) : (restructure o ss).roots = [] ↔ ∀ s ∈ ss, s.Vanishes := by
  rw [← Source.figures_eq_nil_iff o ss, ← Source.buildAll_figures o none ss ⟨0, []⟩,
    (Arena.restructure_holds o ss).roots_eq, map_eq_nil_iff, map_eq_nil_iff]

namespace Arena

variable {a : Arena Float}

theorem code_of_roots_eq_nil (h : a.roots = []) (f : Framework) (c : Context) :
    a.code f c = .error .empty := by
  unfold code
  rw [h]
  rfl

theorem Holds.code_eq {scenes : List (Scene Float)} (h : a.Holds scenes) (hne : a.roots ≠ [])
    (f : Framework) (c : Context) : a.code f c = .ok (f.code c (Scene.branches none scenes)) := by
  unfold code
  rw [isEmpty_eq_false_iff.mpr hne, f.branches_eq_ok_iff.mpr h.branches_eq]
  rfl

end Arena

section
variable (n : NormalizeOptions Float) (ss : List (Source Float)) (f : Framework) (c : Context)

theorem restructure_code_eq_empty_iff :
    (restructure n ss).code f c = .error .empty ↔ ∀ s ∈ ss, s.Vanishes := by
  rw [← restructure_roots_eq_nil_iff n ss]
  constructor
  · intro herror
    by_contra hne
    rw [(Arena.restructure_holds n ss).code_eq hne] at herror
    cases herror
  · exact fun hnil => Arena.code_of_roots_eq_nil hnil f c

theorem exists_restructure_code_eq (h : ¬∀ s ∈ ss, s.Vanishes) :
    ∃ code, (restructure n ss).code f c = .ok code := by
  rw [← restructure_roots_eq_nil_iff n ss] at h
  exact ⟨_, (Arena.restructure_holds n ss).code_eq h f c⟩

end

/-! ## Conversions -/

/-- All that can go wrong with a selection given as text. -/
inductive ConversionError.Arises (n : NormalizeOptions Float) (text : String) :
    ConversionError → Prop
  | selection {e : SelectionError} (h : HostNode.selectionOfText text = .error e) :
      Arises n text (.selection e)
  | missingId {nodes : List (HostNode Float)} {e : MissingId Float}
      (h : HostNode.selectionOfText text = .ok nodes) (he : (normalize n nodes).1 = .error e) :
      Arises n text (.missingId e)
  | empty {nodes : List (HostNode Float)} {a : Arena Float}
      (h : HostNode.selectionOfText text = .ok nodes) (ha : (normalize n nodes).1 = .ok a)
      (hv : ∀ s ∈ HostNode.toSources nodes, s.Vanishes) : Arises n text .empty

section
variable {f : Framework} {n : NormalizeOptions Float} {o : CodeOptions} {text : String}

theorem convert_of_malformed {e : SelectionError} (h : HostNode.selectionOfText text = .error e) :
    convert f n o text = .error (.selection e) := by
  unfold convert normalizeText
  rw [h]
  rfl

theorem convert_of_normalize_error {nodes : List (HostNode Float)} {e : MissingId Float}
    (h : HostNode.selectionOfText text = .ok nodes) (he : (normalize n nodes).1 = .error e) :
    convert f n o text = .error (.missingId e) := by
  unfold convert normalizeText
  rw [h]
  simp only [he]
  rfl

theorem convert_of_normalize_ok {nodes : List (HostNode Float)} {a : Arena Float}
    (h : HostNode.selectionOfText text = .ok nodes) (ha : (normalize n nodes).1 = .ok a) :
    convert f n o text = (a.code f (normalize n nodes).2).map fun body =>
      ⟨if o.wrapInFile then f.file o.componentName body else body,
        (normalize n nodes).2.warnings⟩ := by
  unfold convert normalizeText
  rw [h]
  simp only [ha]
  change (a.code f (normalize n nodes).2 >>= _) = _
  cases a.code f (normalize n nodes).2 <;> rfl

theorem ConversionError.Arises.convert_eq {e : ConversionError} (h : e.Arises n text) :
    convert f n o text = .error e := by
  cases h with
  | selection h => exact convert_of_malformed h
  | missingId h he => exact convert_of_normalize_error h he
  | empty h ha hv =>
    obtain ⟨_, rfl⟩ := normalizeSources_eq_ok_iff.mp ha
    rw [convert_of_normalize_ok h ha, (restructure_code_eq_empty_iff n _ f _).mpr hv]
    rfl

theorem ConversionError.Arises.of_convert_eq {e : ConversionError}
    (h : convert f n o text = .error e) : e.Arises n text := by
  -- the cases follow the run: the text is read, its nodes normalized, the code written
  cases hread : HostNode.selectionOfText text with
  | error x =>
    rw [convert_of_malformed hread] at h
    cases h
    exact .selection hread
  | ok nodes =>
    cases hn : (normalize n nodes).1 with
    | error x =>
      rw [convert_of_normalize_error hread hn] at h
      cases h
      exact .missingId hread hn
    | ok a =>
      rw [convert_of_normalize_ok hread hn] at h
      obtain ⟨_, rfl⟩ := normalizeSources_eq_ok_iff.mp hn
      by_cases hv : ∀ s ∈ HostNode.toSources nodes, s.Vanishes
      · rw [(restructure_code_eq_empty_iff n _ f _).mpr hv] at h
        cases h
        exact .empty hread hn hv
      · obtain ⟨code, hcode⟩ := exists_restructure_code_eq n _ f (normalize n nodes).2 hv
        rw [hcode] at h
        cases h

theorem convert_eq_error_iff {e : ConversionError} :
    convert f n o text = .error e ↔ e.Arises n text :=
  ⟨.of_convert_eq, ConversionError.Arises.convert_eq⟩

end

/-- **There is code unless nothing is left,** and frameworks do not differ in what they fail at. -/
theorem normalize_code_total (n : NormalizeOptions Float) :
    (∀ (c : Context) (selection : List (HostNode Float)) (a : Arena Float),
      (normalizeInto n c selection).1 = .ok a → ∀ (f : Framework) (c' : Context),
        (a.code f c' = .error .empty ↔ ∀ s ∈ HostNode.toSources selection, s.Vanishes) ∧
        ((∃ code, a.code f c' = .ok code) ↔ ∃ s ∈ HostNode.toSources selection, ¬s.Vanishes) ∧
        ∀ u, a.code f c' ≠ .error (.unknownNode u)) ∧
    ∀ (text : String) (f g : Framework) (o o' : CodeOptions) (e : ConversionError),
      (convert f n o text = .error e ↔ e.Arises n text) ∧
      (convert f n o text = .error e ↔ convert g n o' text = .error e) := by
  refine ⟨fun c selection a h f c' => ?_, fun text f g o o' e =>
    ⟨convert_eq_error_iff, convert_eq_error_iff.trans convert_eq_error_iff.symm⟩⟩
  obtain ⟨_, rfl⟩ := normalizeSources_eq_ok_iff.mp h
  have hempty := restructure_code_eq_empty_iff n (HostNode.toSources selection) f c'
  refine ⟨hempty, ?_⟩
  by_cases hv : ∀ s ∈ HostNode.toSources selection, s.Vanishes
  · have hcode := hempty.mpr hv
    exact ⟨by simpa [hcode] using hv, by simp [hcode]⟩
  · obtain ⟨code, hcode⟩ := exists_restructure_code_eq n _ f c' hv
    exact ⟨by simpa [hcode] using hv, by simp [hcode]⟩

def blanks : List (HostNode Float) :=
  [.node { HostProps.plain "1" "square" .rectangle ⟨0, 0, 10, 10, 0⟩ with visible := false } [],
    .node (.plain "2" "note" (.other "STICKY") ⟨0, 0, 10, 10, 0⟩) [],
    .node (.plain "3" "ring" .group ⟨5, 5, 20, 20, 0⟩)
      [.node (.plain "4" "dot" .ellipse ⟨0, 0, 0, 0, 0⟩) []]]

theorem blanks_code : ∃ a, (normalizeInto default .empty blanks).1 = .ok a ∧
    (∀ s ∈ HostNode.toSources blanks, s.Vanishes) ∧ ∀ f c, a.code f c = .error .empty := by
  have hv : ∀ s ∈ HostNode.toSources blanks, s.Vanishes := by decide
  exact ⟨_, rfl, hv, fun f c =>
    ((normalize_code_total default).1 .empty blanks _ rfl f c).1.mpr hv⟩

end Artboard
