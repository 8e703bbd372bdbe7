import Artboard.Normal.Context
import Artboard.Normal.Source

/-!
# Visiting sources

What a run meets on its way through the sources, depth first and a node before its children: things
to warn of, texts, and containers or groups without an id, the first of which ends the run.
-/

namespace Artboard

structure MissingId (α : Type) where
  label : String
  name : String
  x : α
  y : α

def MissingId.message {α : Type} [Scalar α] (e : MissingId α) : String :=
  e.label ++ " '" ++ e.name ++ "' at (" ++ Scalar.text e.x ++ ", " ++ Scalar.text e.y ++
    ") has no id"

inductive Event (α : Type)
  | warning (message : String)
  | runs (id : String) (runs : List TextRun)
  | missing (error : MissingId α)

namespace Draft

variable {α : Type} (d : Draft α)

def unsupportedWarning (name : String) : String := "Unsupported node kind '" ++ name ++ "' omitted"

def missingId : MissingId α := ⟨d.kind.label, d.props.name, d.props.geometry.x, d.props.geometry.y⟩

def lacksId : Bool := d.kind.hasChildren && d.props.id.isEmpty

variable [Scalar α]

def degenerateWarning : String :=
  let g := d.props.geometry
  d.kind.label ++ " '" ++ d.props.name ++ "' at (" ++ Scalar.text g.x ++ ", " ++ Scalar.text g.y ++
    ") has degenerate size " ++ Scalar.text g.width ++ "x" ++ Scalar.text g.height ++ "; dropped"

def omissionEvents : List (Event α) :=
  if !d.props.visible then []
  else
    match d.kind with
    | .unsupported name => [.warning (unsupportedWarning name)]
    | _ => [.warning d.degenerateWarning]

omit [Scalar α] in
def snapshotEvents : List (Event α) :=
  d.snapshotWarnings.map .warning ++
    match d.kind with
    | .text => [.runs d.props.id d.content.runs]
    | _ => []

end Draft

namespace Source

variable {α : Type} [Scalar α]

mutual

def events : Source α → List (Event α)
  | node d children =>
    if !d.isKept then d.omissionEvents
    else if d.lacksId then [.missing d.missingId]
    else d.snapshotEvents ++ if d.kind.hasChildren then eventsOfAll children else []

def eventsOfAll : List (Source α) → List (Event α)
  | [] => []
  | s :: rest => events s ++ eventsOfAll rest

end

theorem eventsOfAll_append (ss ts : List (Source α)) :
    eventsOfAll (ss ++ ts) = eventsOfAll ss ++ eventsOfAll ts := by
  induction ss with
  | nil => rfl
  | cons s ss ih => rw [List.cons_append, eventsOfAll, eventsOfAll, ih, List.append_assoc]

end Source

namespace Context

variable {α : Type}

/-- What a run has gathered by the end of its events, or up to the first that ends it. -/
def gather (c : Context) : List (Event α) → Except (MissingId α) Unit × Context
  | [] => (.ok (), c)
  | .warning m :: rest => gather (c.warn m) rest
  | .runs id rs :: rest => gather (c.setRuns id rs) rest
  | .missing e :: _ => (.error e, c)

end Context

end Artboard
