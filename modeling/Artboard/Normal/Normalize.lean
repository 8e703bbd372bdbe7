import Artboard.Normal.HostSource
import Artboard.Normal.Restructure
import Artboard.Normal.Visit

/-!
# Normalization

A run over sources gathers its context and, unless a container or group without an id ends it,
lays the scenes out in an arena. Host selections and arenas are both sources, so the
result of a run can be normalized again.
-/

namespace Artboard

namespace Scene

variable {α : Type}

mutual

def slots (parent : Option Nat) : Scene α → List (Nat × Slot α)
  | node i e children =>
    (i, ⟨e, parent, children.map slot⟩) :: slotsOfAll (some i) children

def slotsOfAll (parent : Option Nat) : List (Scene α) → List (Nat × Slot α)
  | [] => []
  | s :: rest => slots parent s ++ slotsOfAll parent rest

end

end Scene

namespace Arena

variable {α : Type}

def ofSlots (numbered : List (Nat × Slot α)) (roots : List Nat) : Arena α where
  slots := ((numbered.mergeSort fun p q => p.1 ≤ q.1).map (·.2)).toArray
  roots := roots

def ofScenes (scenes : List (Scene α)) (l : Ledger α) : Arena α :=
  ofSlots (Scene.slotsOfAll none scenes ++ l.abandoned) (scenes.map Scene.slot)

end Arena

namespace Element

variable {α : Type} [Scalar α]

def sourceKind (e : Element α) : SourceKind :=
  match e.kind with
  | .rectangle => .rectangle
  | .ellipse => .ellipse
  | .line => .line
  | .shape s => .shape s
  | .group => .group
  | .container _ => .container
  | .text _ => .text
  | .boolean => .boolean

/-- An element as a source: a container declares the layout it has. -/
def toDraft (e : Element α) : Draft α where
  kind := e.sourceKind
  props := e.props
  clips := (e.kind.layout?.map (·.clips)).getD false
  declared := e.kind.layout?
  content := e.kind.content?.getD default
  propsWarnings := []
  contentWarnings := []

end Element

namespace Arena

variable {α : Type} [Scalar α] (a : Arena α)

def source? : Nat → Nat → Option (Source α)
  | budget, i => do
    let s ← a.get? i
    match budget with
    | 0 => return .node s.element.toDraft []
    | n + 1 => return .node s.element.toDraft (s.children.filterMap (source? n))

def sources : List (Source α) := a.roots.filterMap (a.source? a.size)

end Arena

section Normalize

variable {α : Type} [Scalar α] [Circular α] (o : NormalizeOptions α)

def restructure (sources : List (Source α)) : Arena α :=
  let (scenes, ledger) := (Source.buildAll o none sources).run ⟨0, []⟩
  Arena.ofScenes scenes ledger

/-- A run clears the context it is given, and leaves what it gathered even if it fails. -/
def normalizeSources (c : Context) (sources : List (Source α)) :
    Except (MissingId α) (Arena α) × Context :=
  let (outcome, context) := c.reset.gather (Source.eventsOfAll sources)
  (outcome.map fun _ => restructure o sources, context)

def normalizeInto (c : Context) (selection : List (HostNode α)) :
    Except (MissingId α) (Arena α) × Context :=
  normalizeSources o c (HostNode.toSources selection)

def normalize (selection : List (HostNode α)) : Except (MissingId α) (Arena α) × Context :=
  normalizeInto o .empty selection

def Arena.renormalizeInto (c : Context) (a : Arena α) :
    Except (MissingId α) (Arena α) × Context :=
  normalizeSources o c a.sources

def Arena.renormalize (a : Arena α) : Except (MissingId α) (Arena α) × Context :=
  a.renormalizeInto o .empty

end Normalize

end Artboard
