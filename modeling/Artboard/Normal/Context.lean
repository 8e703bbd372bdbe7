import Artboard.Style.Typography

/-!
# Conversion context

What a run leaves behind besides its tree: the warnings raised, each once and in the order first
seen, and the styled runs of the text nodes, by id.
-/

namespace Artboard

structure Context where
  warnings : List String
  runs : List (String × List TextRun)

namespace Context

def empty : Context := ⟨[], []⟩

variable (c : Context)

def warn (message : String) : Context :=
  if c.warnings.contains message then c else { c with warnings := c.warnings ++ [message] }

theorem runs_warn (message : String) : (c.warn message).runs = c.runs := by
  unfold warn
  split <;> rfl

def warnAll (messages : List String) : Context := messages.foldl warn c

def setIn (id : String) (runs : List TextRun) :
    List (String × List TextRun) → List (String × List TextRun)
  | [] => [(id, runs)]
  | (k, v) :: rest => if k = id then (k, runs) :: rest else (k, v) :: setIn id runs rest

def setRuns (id : String) (runs : List TextRun) : Context :=
  { c with runs := setIn id runs c.runs }

def runs? (id : String) : Option (List TextRun) := (c.runs.find? fun p => p.1 == id).map (·.2)

def clearWarnings : Context := { c with warnings := [] }

def clearRuns : Context := { c with runs := [] }

def reset : Context := c.clearWarnings.clearRuns

end Context

end Artboard
