import Artboard.Code.Figures
import Artboard.Proofs.Correspondence
import Artboard.Proofs.Gathering

/-!
# Runs of texts

A context has for an id the runs of the last text that survives with it, and these go before the
runs a text has itself. So every text is written with its own runs if and only if texts with one id
have equal runs.
-/

open List

namespace Artboard

/-! ## What is gathered for an id -/

def Event.runsFor? {α : Type} (id : String) : Event α → Option (List TextRun)
  | runs k rs => if k = id then some rs else none
  | _ => none

namespace Context

variable (c : Context)

theorem runs?_warn (m id : String) : (c.warn m).runs? id = c.runs? id := by
  rw [runs?, runs_warn, runs?]

theorem map_find?_setIn (k id : String) (rs : List TextRun) : ∀ l : List (String × List TextRun),
    ((setIn k rs l).find? fun p => p.1 == id).map (·.2) =
      if k = id then some rs else (l.find? fun p => p.1 == id).map (·.2)
  | [] => by by_cases h : k = id <;> simp [setIn, h]
  | (j, v) :: l => by
    have ih := map_find?_setIn k id rs l
    rw [setIn]
    by_cases hj : j = k
    · subst hj
      by_cases h : j = id <;> simp [h]
    · by_cases h : j = id
      · subst h
        simp [hj, Ne.symm hj]
      · simp [hj, h, ih]

theorem runs?_setRuns (k id : String) (rs : List TextRun) :
    (c.setRuns k rs).runs? id = if k = id then some rs else c.runs? id :=
  map_find?_setIn k id rs c.runs

theorem runs?_gather {α : Type} {events : List (Event α)}
    (h : events.findSome? Event.missing? = none) (id : String) : ∀ c : Context, (c.gather events).2.runs? id =
      ((events.filterMap (Event.runsFor? id)).getLast?).or (c.runs? id) := by
  induction events with
  | nil =>
    intro c
    rfl
  | cons e events ih =>
    intro c
    cases e with
    | warning m => rw [gather, ih h, runs?_warn, filterMap_cons_none rfl]
    | runs k rs =>
      rw [gather, ih h, runs?_setRuns]
      by_cases hk : k = id
      · have hrs : (Event.runs k rs : Event α).runsFor? id = some rs := if_pos hk
        rw [if_pos hk, filterMap_cons_some hrs, getLast?_cons]
        cases (events.filterMap (Event.runsFor? id)).getLast? <;> rfl
      · have hrs : (Event.runs k rs : Event α).runsFor? id = none := if_neg hk
        rw [if_neg hk, filterMap_cons_none hrs]
    | missing x => cases h

end Context

namespace Draft

variable {α : Type} (d : Draft α) (id : String)

theorem filterMap_omissionEvents [Scalar α] :
    d.omissionEvents.filterMap (Event.runsFor? id) = [] := by
  unfold omissionEvents
  split
  · rfl
  · split <;> rfl

theorem filterMap_snapshotEvents : d.snapshotEvents.filterMap (Event.runsFor? id) =
    if d.kind = .text ∧ d.props.id = id then [d.content.runs] else [] := by
  have hwarnings : (d.snapshotWarnings.map (@Event.warning α)).filterMap (Event.runsFor? id) = [] := by
    simp [Event.runsFor?]
  rw [snapshotEvents, filterMap_append, hwarnings, nil_append]
  cases d.kind with
  | text => by_cases hid : d.props.id = id <;> simp [Event.runsFor?, hid]
  | _ => rfl

end Draft

namespace Source

variable {α : Type} [Scalar α]

def isText (id : String) (s : Source α) : Bool := s.draft.kind = .text ∧ s.draft.props.id = id

def texts (id : String) (ss : List (Source α)) : List (Source α) :=
  (survivorsOfAll ss).filter (isText id)

theorem mem_texts_iff {id : String} {ss : List (Source α)} {s : Source α} : s ∈ texts id ss ↔
    s ∈ survivorsOfAll ss ∧ s.draft.kind = .text ∧ s.draft.props.id = id := by
  simp [texts, isText]

variable (id : String)

mutual

theorem filterMap_events : ∀ s : Source α, (∀ t ∈ survivors s, t.draft.lacksId = false) →
    (events s).filterMap (Event.runsFor? id) =
      ((survivors s).filter (isText id)).map (·.draft.content.runs)
  | node d cs, h => by
    have ih := filterMap_eventsOfAll cs
    unfold events survivors at *
    cases hkept : d.isKept with
    | false => exact d.filterMap_omissionEvents id
    | true =>
      simp only [hkept, if_true, forall_mem_cons] at h
      obtain ⟨hid, hcs⟩ := h
      simp only [draft] at hid
      simp only [hid, Bool.not_true, Bool.false_eq_true, if_false, if_true, filterMap_append,
        d.filterMap_snapshotEvents]
      cases hp : d.kind.hasChildren with
      | false => by_cases htext : d.kind = .text ∧ d.props.id = id <;> simp [isText, draft, htext]
      | true =>
        -- a parent caches no runs, so all that are gathered come from below
        have hother : ¬(d.kind = .text ∧ d.props.id = id) := by
          rintro ⟨hk, _⟩
          rw [hk] at hp
          cases hp
        rw [hp] at hcs
        simpa [isText, draft, hother, texts] using ih hcs

theorem filterMap_eventsOfAll : ∀ ss : List (Source α),
    (∀ t ∈ survivorsOfAll ss, t.draft.lacksId = false) →
      (eventsOfAll ss).filterMap (Event.runsFor? id) = (texts id ss).map (·.draft.content.runs)
  | [], _ => rfl
  | s :: ss, h => by
    rw [survivorsOfAll, forall_mem_append] at h
    rw [eventsOfAll, texts, survivorsOfAll, filterMap_append, filter_append, map_append,
      filterMap_events s h.1, filterMap_eventsOfAll ss h.2, texts]

end

end Source

section
variable {α : Type} [Scalar α] [Circular α] {o : NormalizeOptions α} {c : Context}
variable {ss : List (Source α)} {a : Arena α}

theorem runs?_normalizeSources (h : (normalizeSources o c ss).1 = .ok a) (id : String) :
    (normalizeSources o c ss).2.runs? id =
      (Source.texts id ss).getLast?.map (·.draft.content.runs) := by
  have hid := (normalizeSources_eq_ok_iff.mp h).1
  have hmissing := Context.gather_ok_iff.mp (Source.gather_eventsOfAll_ok_iff (c := c).mpr hid)
  change (c.reset.gather (Source.eventsOfAll ss)).2.runs? id = _
  rw [Context.runs?_gather hmissing, Source.filterMap_eventsOfAll id ss hid, getLast?_map]
  exact Option.or_none

end

/-! ## Texts among the figures -/

theorem Draft.of_snapshot_text {α : Type} [Scalar α] [Circular α] {d : Draft α} {e : Element α}
    {t : TextContent} (he : d.snapshot = some e) (hk : e.kind = .text t) :
    d.kind = .text ∧ d.content = t ∧ e.props.id = d.props.id := by
  unfold snapshot at he
  cases hd : d.kind with
  | unsupported name => simp [hd] at he
  | text =>
    simp only [hd, Option.some.injEq] at he
    subst he
    cases hk
    exact ⟨rfl, rfl, rfl⟩
  | _ =>
    simp only [hd, Option.some.injEq] at he
    subst he
    cases hk

namespace Figure

variable {α : Type}

mutual

theorem Every.of_mem_ungrouped {Q : Element α → Prop} : ∀ {f : Figure α},
    Every (fun e _ => Q e) f → ∀ e ∈ f.ungrouped, Q e
  | node e cs, ⟨he, hcs⟩, e', he' => by
    rw [ungrouped] at he'
    split at he'
    · exact EveryOf.of_mem_ungroupedOfAll hcs e' he'
    · rcases mem_cons.mp he' with rfl | he'
      · exact he
      · exact EveryOf.of_mem_ungroupedOfAll hcs e' he'

theorem EveryOf.of_mem_ungroupedOfAll {Q : Element α → Prop} : ∀ {fs : List (Figure α)},
    EveryOf (fun e _ => Q e) fs → ∀ e ∈ ungroupedOfAll fs, Q e
  | [], _, _, he => absurd he not_mem_nil
  | f :: fs, ⟨hf, hfs⟩, e, he => by
    rcases mem_append.mp he with he | he
    · exact Every.of_mem_ungrouped hf e he
    · exact EveryOf.of_mem_ungroupedOfAll hfs e he

end

variable [Scalar α] [Circular α] {o : NormalizeOptions α}

theorem text_invariant (ss : List (Source α)) :
    Invariant o (fun d => ∃ s ∈ Source.survivorsOfAll ss, s.draft = d) fun e _ =>
      ∀ t, e.kind = .text t → ∃ s ∈ Source.texts e.props.id ss, s.draft.content = t where
  shift := fun h _ _ => h
  settle := fun {e _} h f => by
    rcases Element.container_or_settle_eq f e with ⟨l, hl⟩ | he
    · rw [Element.settle_of_container f hl]
      exact nofun
    · rwa [he]
  leaf := fun {d e} _ hd _ he t hk => by
    obtain ⟨s, hs, rfl⟩ := hd
    obtain ⟨hkind, hcontent, hid⟩ := Draft.of_snapshot_text he hk
    exact ⟨s, Source.mem_texts_iff.mpr ⟨hs, hkind, hid.symm⟩, hcontent⟩
  emptied := fun _ _ _ => nofun
  container := fun _ _ _ _ _ => nofun
  promoted := fun _ _ _ _ => nofun
  group := fun _ _ _ _ _ => nofun

theorem exists_text_source (o : NormalizeOptions α) (ss : List (Source α)) :
    EveryOf (fun e _ => ∀ t, e.kind = .text t →
      ∃ s ∈ Source.texts e.props.id ss, s.draft.content = t) (Source.figures o ss) :=
  (text_invariant ss).everyOf_figures fun s hs => ⟨s, hs, rfl⟩

theorem exists_text_figure (o : NormalizeOptions α) {ss : List (Source α)} {s : Source α}
    {id : String} (hs : s ∈ Source.texts id ss) :
    ∃ e ∈ ungroupedOfAll (Source.figures o ss),
      e.kind = .text s.draft.content ∧ e.props.id = id := by
  obtain ⟨hsurvives, hkind, rfl⟩ := Source.mem_texts_iff.mp hs
  have hun : s ∈ Source.ungrouped ss := mem_filter.mpr ⟨hsurvives, by simp [hkind]⟩
  obtain ⟨e, he, e₀, he₀, hprops, hbecomes⟩ :=
    ((Source.matches_induction o).all ss).exists_becomes hun
  have hprops' := congrArg Props.id hprops
  have hsnap := Draft.snapshot_text hkind
  cases hsnap.symm.trans he₀
  refine ⟨e, he, ?_, hprops'⟩
  generalize e.kind = k at hbecomes
  cases hbecomes with
  | same => rfl
  | promoted h => cases h

end Figure

/-! ## What texts are written with -/

namespace Element

variable {α : Type} {c : Context} {e : Element α}

def KeepsRuns (c : Context) (e : Element α) : Prop := ∀ t, e.kind = .text t → e.textRuns c = t.runs

theorem isText_iff : e.isText = true ↔ ∃ t, e.kind = .text t := by
  unfold isText
  cases e.kind <;> simp [Kind.content?]

theorem textRuns_of_runs? {rs : List TextRun} (h : c.runs? e.props.id = some rs) :
    e.textRuns c = rs := by
  rw [textRuns, h]

end Element

namespace Context

variable {α : Type} [Scalar α] [Circular α] {c : Context} {ss : List (Source α)}

/-- The context has, for every id, the runs of the last text with that id. -/
def HasLast (c : Context) (ss : List (Source α)) : Prop :=
  ∀ id, c.runs? id = (Source.texts id ss).getLast?.map (·.draft.content.runs)

namespace HasLast

variable (h : c.HasLast ss)
include h

omit [Circular α] in
theorem exists_last {e : Element α} {s : Source α} (hs : s ∈ Source.texts e.props.id ss) :
    ∃ l ∈ Source.texts e.props.id ss, (Source.texts e.props.id ss).getLast? = some l ∧
      e.textRuns c = l.draft.content.runs := by
  have hl := getLast?_eq_some_getLast (ne_nil_of_mem hs)
  refine ⟨_, getLast_mem _, hl, Element.textRuns_of_runs? ?_⟩
  rw [h, hl, Option.map_some]

theorem runs?_of_keepsRuns {o : NormalizeOptions α}
    (hkeeps : Figure.EveryOf (fun e _ => e.KeepsRuns c) (Source.figures o ss)) {id : String}
    {s : Source α} (hs : s ∈ Source.texts id ss) : c.runs? id = some s.draft.content.runs := by
  obtain ⟨e, he, hk, rfl⟩ := Figure.exists_text_figure o hs
  obtain ⟨l, _, hl, hruns⟩ := h.exists_last hs
  rw [h, hl, Option.map_some, ← hruns, hkeeps.of_mem_ungroupedOfAll e he _ hk]

theorem everyOf_keepsRuns_iff (o : NormalizeOptions α) :
    Figure.EveryOf (fun e _ => e.KeepsRuns c) (Source.figures o ss) ↔
      ∀ id, ∀ s ∈ Source.texts id ss, ∀ s' ∈ Source.texts id ss,
        s.draft.content.runs = s'.draft.content.runs := by
  constructor
  · -- both become figures with one id, for which one list of runs is held
    intro hkeeps id s hs s' hs'
    exact Option.some.inj
      ((h.runs?_of_keepsRuns hkeeps hs).symm.trans (h.runs?_of_keepsRuns hkeeps hs'))
  · intro heq
    refine (Figure.exists_text_source o ss).imp fun e _ he t ht => ?_
    obtain ⟨s, hs, rfl⟩ := he t ht
    obtain ⟨l, hl, _, hruns⟩ := h.exists_last hs
    rw [hruns, heq _ l hl s hs]

end HasLast

end Context

section
variable {α : Type} [Scalar α] [Circular α]

/-- **A text is written with the runs of the last text that has its id.** So each keeps its own if
and only if texts with one id, be it empty, have equal runs. -/
theorem textRuns_eq_iff (o : NormalizeOptions α) (c : Context) (selection : List (HostNode α))
    {a : Arena α} (h : (normalizeInto o c selection).1 = .ok a) :
    (a.Everywhere fun e => e.isText = true →
      ∃ s, (Source.texts e.props.id (HostNode.toSources selection)).getLast? = some s ∧
        e.textRuns (normalizeInto o c selection).2 = s.draft.content.runs) ∧
    (a.Everywhere (Element.KeepsRuns (normalizeInto o c selection).2) ↔
      ∀ id, ∀ s ∈ Source.texts id (HostNode.toSources selection),
        ∀ s' ∈ Source.texts id (HostNode.toSources selection),
          s.draft.content.runs = s'.draft.content.runs) := by
  have hlast : (normalizeInto o c selection).2.HasLast (HostNode.toSources selection) :=
    runs?_normalizeSources h
  obtain ⟨_, rfl⟩ := normalizeSources_eq_ok_iff.mp h
  have hunfolds := Arena.restructure_unfoldsAll o (HostNode.toSources selection)
  rw [Arena.everywhere_iff hunfolds, Arena.everywhere_iff hunfolds]
  refine ⟨(Figure.exists_text_source o _).imp fun e _ he hk => ?_, hlast.everyOf_keepsRuns_iff o⟩
  obtain ⟨t, ht⟩ := Element.isText_iff.mp hk
  obtain ⟨s, hs, _⟩ := he t ht
  obtain ⟨l, _, hl, hruns⟩ := hlast.exists_last hs
  exact ⟨l, hl, hruns⟩

end

def HostProps.nameless (name characters : String) (geometry : Geometry Float) : HostProps Float :=
  { HostProps.plain "" name .text geometry with characters := some characters }

/-- Two answers, of which neither has an id. -/
def answers : List (HostNode Float) :=
  [.node (.nameless "first" "Yes" ⟨0, 0, 40, 20, 0⟩) [],
    .node (.nameless "second" "No" ⟨0, 30, 40, 20, 0⟩) []]

theorem answers_not_keepsRuns : ∃ a, (normalizeInto default .empty answers).1 = .ok a ∧
    ¬a.Everywhere (Element.KeepsRuns (normalizeInto default .empty answers).2) := by
  refine ⟨_, rfl, fun hkeeps => ?_⟩
  have heq := (textRuns_eq_iff default .empty answers rfl).2.mp hkeeps ""
  have htexts : Source.texts "" (HostNode.toSources answers) = HostNode.toSources answers := rfl
  rw [htexts] at heq
  have hruns := heq _ mem_cons_self _ (mem_cons_of_mem _ mem_cons_self)
  have hcharacters := congrArg (List.map TextRun.characters) hruns
  exact absurd hcharacters (by decide)

end Artboard
