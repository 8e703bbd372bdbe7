import Artboard.Proofs.InPlace
import Mathlib.Data.List.Induction

/-!
# What a run warns of

The warnings of a run are the messages of the nodes it visits up to the one that ends it, each where
it is first given. A node that is hidden gives none, and neither does anything below a node that is
left out or holds no children.
-/

open List

namespace Artboard

/-! ## Messages -/

/-- Of visible paints only those of a kind nobody knows cannot be drawn; and they are visible. -/
def HostPaint.messages (l : List HostPaint) : List String :=
  (l.filter (· matches .unsupported)).map fun _ => unsupportedPaintWarning

namespace HostProps

variable {α : Type} [Scalar α] (p : HostProps α)

def textMessages : List String :=
  match p.segments with
  | [] =>
    if p.text = "" then []
    else
      (if p.fontSize.isIndeterminate || p.font.isIndeterminate then [p.mixedStyleWarning] else []) ++
        HostPaint.messages (fillsOf p.fills)
  | segments => segments.flatMap fun s => HostPaint.messages s.fills

def endsRun : Bool := p.toDraft.isKept && p.toDraft.lacksId

/-- The messages of a node that ends no run, those of its children apart. -/
def messages : List String :=
  if p.visible = false then []
  else
    match p.kind.toSource with
    | .unsupported name => [Draft.unsupportedWarning name]
    | kind =>
      if p.geometry.isDegenerate then [p.toDraft.degenerateWarning]
      else
        HostPaint.messages (fillsOf p.fills) ++ HostPaint.messages p.strokes ++
          if kind = .text then p.textMessages else []

end HostProps

namespace HostNode

variable {α : Type} [Scalar α]

mutual

/-- The nodes a run visits if nothing ends it, a node before its children. -/
def visits : HostNode α → List (HostNode α)
  | node p cs =>
    node p cs :: if p.toDraft.isKept && p.toDraft.kind.hasChildren then visitsOfAll cs else []

def visitsOfAll : List (HostNode α) → List (HostNode α)
  | [] => []
  | n :: ns => visits n ++ visitsOfAll ns

end

def messagesOfAll (visited : List (HostNode α)) : List String :=
  (visited.takeWhile fun n => !n.props.endsRun).flatMap fun n => n.props.messages

theorem messagesOfAll_of_endsRun {p : HostProps α} (h : p.endsRun = true) (cs ns : List (HostNode α)) :
    messagesOfAll (node p cs :: ns) = [] := by
  simp [messagesOfAll, props, h]

theorem messagesOfAll_cons {p : HostProps α} (h : p.endsRun = false) (cs ns : List (HostNode α)) :
    messagesOfAll (node p cs :: ns) = p.messages ++ messagesOfAll ns := by
  simp [messagesOfAll, props, h]

end HostNode

/-! ## The messages of a node are its warnings -/

theorem HostPaint.messages_eq (l : List HostPaint) : HostPaint.warnings l = HostPaint.messages l := by
  unfold warnings messages
  rw [filter_filter]
  congr 2
  funext p
  cases p with
  | unsupported => rfl
  | _ => simp [toPaint?]

namespace HostProps

variable {α : Type} [Scalar α] {p : HostProps α}

theorem contentWarnings_eq : p.contentWarnings = p.textMessages := by
  unfold contentWarnings textMessages
  simp only [HostPaint.messages_eq]
  cases p.segments with
  | nil => simp
  | cons s ss => rfl

theorem messages_of_kept (h : p.toDraft.isKept = true) :
    p.messages = p.toDraft.snapshotWarnings := by
  simp only [Draft.isKept, Bool.and_eq_true, Bool.not_eq_true'] at h
  obtain ⟨⟨hvisible, hsupported⟩, hdegenerate⟩ := h
  have hvisible : p.visible = true := hvisible
  have hdegenerate : p.geometry.isDegenerate = false := hdegenerate
  have hkind : p.toDraft.kind = p.kind.toSource := rfl
  have hprops : p.toDraft.propsWarnings =
      HostPaint.messages (fillsOf p.fills) ++ HostPaint.messages p.strokes := by
    rw [← HostPaint.messages_eq, ← HostPaint.messages_eq]
    rfl
  have hcontent : p.toDraft.contentWarnings = p.textMessages := contentWarnings_eq
  rw [hkind] at hsupported
  unfold messages Draft.snapshotWarnings
  rw [hkind, hprops, hcontent, hdegenerate]
  cases hk : p.kind.toSource with
  | unsupported name => rw [hk] at hsupported; cases hsupported
  | _ => simp [hvisible]

theorem messages_of_omitted (h : p.toDraft.isKept = false) :
    p.toDraft.omissionEvents = p.messages.map .warning := by
  have hvisible : p.toDraft.props.visible = p.visible := rfl
  have hkind : p.toDraft.kind = p.kind.toSource := rfl
  have hgeometry : p.toDraft.props.geometry = p.geometry := rfl
  simp only [Draft.isKept, hvisible, hkind, hgeometry] at h
  unfold Draft.omissionEvents messages
  rw [hvisible, hkind]
  cases hv : p.visible with
  | false => rfl
  | true =>
    cases hk : p.kind.toSource with
    | unsupported name => rfl
    | _ => simp_all [SourceKind.isSupported]

end HostProps

/-! ## What a run hears -/

namespace Event

variable {α : Type}

def heard : List (Event α) → List String
  | [] => []
  | .warning m :: rest => m :: heard rest
  | .runs _ _ :: rest => heard rest
  | .missing _ :: _ => []

theorem heard_warnings_append (ms : List String) (es : List (Event α)) :
    heard (ms.map .warning ++ es) = ms ++ heard es := by
  induction ms with
  | nil => rfl
  | cons m ms ih => exact congrArg (m :: ·) ih

theorem heard_snapshotEvents_append (d : Draft α) (es : List (Event α)) :
    heard (d.snapshotEvents ++ es) = d.snapshotWarnings ++ heard es := by
  unfold Draft.snapshotEvents
  rw [append_assoc, heard_warnings_append]
  split <;> rfl

end Event

namespace HostNode

open Event Source

variable {α : Type} [Scalar α]

mutual

theorem heard_events : ∀ (n : HostNode α) {es : List (Event α)} {after : List (HostNode α)},
    heard es = messagesOfAll after →
      heard (events n.toSource ++ es) = messagesOfAll (visits n ++ after)
  | node p cs, es, after, h => by
    rw [toSource, events, visits, cons_append]
    cases hkept : p.toDraft.isKept with
    | false =>
      have hgoes : p.endsRun = false := by simp [HostProps.endsRun, hkept]
      rw [messagesOfAll_cons hgoes, Bool.not_false, if_pos rfl, HostProps.messages_of_omitted hkept,
        heard_warnings_append, h]
      rfl
    | true =>
      cases hid : p.toDraft.lacksId with
      | true =>
        -- the run ends here, so nothing that would come later is heard
        rw [messagesOfAll_of_endsRun (by simp [HostProps.endsRun, hkept, hid])]
        rfl
      | false =>
        have hgoes : p.endsRun = false := by simp [HostProps.endsRun, hid]
        rw [messagesOfAll_cons hgoes, HostProps.messages_of_kept hkept]
        cases p.toDraft.kind.hasChildren with
        | false => simpa [heard_snapshotEvents_append] using h
        | true => simpa [heard_snapshotEvents_append] using heard_eventsOfAll cs h

theorem heard_eventsOfAll : ∀ (ns : List (HostNode α)) {es : List (Event α)}
    {after : List (HostNode α)}, heard es = messagesOfAll after →
      heard (eventsOfAll (toSources ns) ++ es) = messagesOfAll (visitsOfAll ns ++ after)
  | [], _, _, h => h
  | n :: ns, es, after, h => by
    rw [toSources, eventsOfAll, visitsOfAll, append_assoc, append_assoc]
    exact heard_events n (heard_eventsOfAll ns h)

end

end HostNode

/-! ## Each message once -/

namespace Context

variable {α : Type}

def remember (known : List String) (m : String) : List String :=
  if m ∈ known then known else known ++ [m]

theorem warnings_warn (c : Context) (m : String) : (c.warn m).warnings = remember c.warnings m := by
  unfold warn remember
  simp only [contains_iff_mem]
  split <;> rfl

theorem warnings_gather_eq {events : List (Event α)} : ∀ {c : Context},
    (c.gather events).2.warnings = (Event.heard events).foldl remember c.warnings := by
  induction events with
  | nil =>
    intro c
    rfl
  | cons e events ih =>
    intro c
    cases e with
    | warning m =>
      rw [Event.heard, foldl_cons, ← warnings_warn]
      exact ih
    | runs id rs => exact ih
    | missing x => rfl

theorem foldl_remember (ms : List String) : ms.foldl remember [] = ms.eraseDups := by
  induction ms using List.reverseRecOn with
  | nil => rfl
  | append_singleton ms m ih =>
    rw [foldl_append, ih, foldl_cons, foldl_nil, remember, eraseDups_append]
    by_cases hm : m ∈ ms
    · simp [hm, mem_eraseDups, removeAll]
    · simp [hm, mem_eraseDups, removeAll, eraseDups_cons]

end Context

/-! ## Runs -/

section
variable {α : Type} [Scalar α] [Circular α]

theorem warnings_normalizeInto (o : NormalizeOptions α) (c : Context)
    (selection : List (HostNode α)) : (normalizeInto o c selection).2.warnings =
      (HostNode.messagesOfAll (HostNode.visitsOfAll selection)).eraseDups := by
  have hheard := @HostNode.heard_eventsOfAll _ _ selection [] [] rfl
  rw [append_nil, append_nil] at hheard
  rw [← hheard, ← Context.foldl_remember]
  exact Context.warnings_gather_eq

/-- **The warnings of a run are the messages of what it visits,** whether it succeeds or fails, each
once and where it is first given, and nothing of what the context held before. -/
theorem normalize_warnings (o : NormalizeOptions α) (c : Context) (selection : List (HostNode α)) :
    (normalizeInto o c selection).2.warnings =
      (((HostNode.visitsOfAll selection).takeWhile fun n => !n.props.endsRun).flatMap
        fun n => n.props.messages).eraseDups ∧
    (normalizeInPlace o c selection).2.warnings = (normalizeInto o c selection).2.warnings :=
  ⟨warnings_normalizeInto o c selection,
    congrArg (fun r => r.2.warnings) (normalizeSourcesInPlace_eq o c (HostNode.toSources selection))⟩

end

def board : List (HostNode Float) :=
  [.node (.plain "1" "board" .frame ⟨0, 0, 100, 100, 0⟩)
    [.node (.plain "2" "note" (.other "STICKY") ⟨0, 0, 10, 10, 0⟩) [],
      .node { HostProps.plain "3" "tile" .rectangle ⟨0, 0, 10, 10, 0⟩ with
        fills := .known [.unsupported, .unsupported] } [],
      .node (.plain "4" "note" (.other "STICKY") ⟨0, 0, 10, 10, 0⟩) []],
    .node (.plain "" "nameless" .frame ⟨0, 0, 100, 100, 0⟩) [],
    .node (.plain "6" "slice" (.other "SLICE") ⟨0, 0, 10, 10, 0⟩) []]

example : (normalizeInto default .empty board).2.warnings =
    ["Unsupported node kind 'STICKY' omitted", "Unsupported paint kind dropped"] := by decide

end Artboard
