import Artboard.Scene.Arena

/-!
# Edits

Calls on an arena taken step by step, look-ups and writes one after another. A look-up that finds no
slot ends an edit there, and what was written before it stays written.
-/

namespace Artboard

abbrev Edit (α : Type) := ExceptT UnknownNode (StateM (Arena α))

namespace Edit

variable {α : Type}

def look (i : Nat) : Edit α (Slot α) := fun a => (a.get i, a)

def change (i : Nat) (f : Slot α → Slot α) : Edit α Unit := do
  let _ ← look i
  modify fun a => a.modify i f

def insert (e : Element α) : Edit α Nat := fun a => (.ok a.size, a.insert e)

/-- The child points back before the parent is looked for again. -/
def attach (parent child : Nat) : Edit α Unit := do
  let _ ← look parent
  change child fun s => { s with parent := some parent }
  change parent fun s => { s with children := s.children ++ [child] }

def addRoot (i : Nat) : Edit α Unit := do
  if ((← get).get? i).isSome then
    modify fun a => a.modify i fun s => { s with parent := none }
    modify fun a => { a with roots := a.roots ++ [i] }
  else return

end Edit

end Artboard
