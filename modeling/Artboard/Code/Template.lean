import Artboard.Code.Template.Helper
import Artboard.Code.Template.Text
import Artboard.Json.Writer

/-!
# Templates

Texts with tags between double or triple braces. A tag shows a value of the data, or what a helper
makes of operands. Values are put in as they are, since what is written is code.
-/

namespace Artboard

/-! ## Values -/

namespace Json

mutual

def shown : Json → String
  | null | unreadable => ""
  | bool b => if b then "true" else "false"
  | number n => n.text
  | text s => s
  | list items => "[" ++ ", ".intercalate (shownItems items) ++ "]"
  | object _ => "[object]"

def shownItems : List Json → List String
  | [] => []
  | v :: rest => shown v :: shownItems rest

end

end Json

namespace Reference

/-- A position in a list, which fits 64 bits and may have a sign in front. -/
def position? (name : String) : Option Nat :=
  let digits := match name.toList with
    | '+' :: rest => rest
    | cs => cs
  if digits.isEmpty then none
  else
    match digits.mapM JsonToken.digit? with
    | some ds => if Numeral.ofDigits ds < twoTo 64 then some (Numeral.ofDigits ds) else none
    | none => none

/-- What a path leads to; what is not there is `null`. The steps into a list are positions. -/
def follow? : List String → Json → Option Json
  | [], v => some v
  | name :: rest, .list items => do follow? rest (items[← position? name]?.getD .null)
  | name :: rest, .object fields => follow? rest ((Helper.field? fields name).getD .null)
  | _ :: _, _ => some .null

def value? (r : Reference) (data : Json) : Option Json :=
  if r.isVariable then some .null else follow? r.path data

end Reference

namespace Operand

mutual

def value? (data : Json) : Operand → Option Json
  | reference r => r.value? data
  | literal v => some v
  | call helper operands options => do
    let vs ← values? data operands
    let named ← options? data options
    (← Helper.ofName? helper).result? named vs

def values? (data : Json) : List Operand → Option (List Json)
  | [] => some []
  | o :: rest => do return (← value? data o) :: (← values? data rest)

def options? (data : Json) : List (String × Operand) → Option (List (String × Json))
  | [] => some []
  | (name, o) :: rest => do return (name, ← value? data o) :: (← options? data rest)

end

def helperName? (data : Json) : Operand → Option String
  | reference r => some r.text
  | o => (o.value? data).map Json.shown

end Operand

namespace Piece

def text? (data : Json) : Piece → Option String
  | text s => some s
  | call helper operands options =>
    ((Operand.call helper operands options).value? data).map Json.shown
  | value o => do
    match Helper.ofName? (← o.helperName? data) with
    | some h => (h.result? [] []).map Json.shown
    | none => (o.value? data).map Json.shown

end Piece

namespace Template

/-- Of repeated fields of the data the last one counts. -/
def render? (t : Template) (data : Json) : Option String :=
  (t.mapM (Piece.text? data.merge)).map String.join

def renderText? (s : String) (data : Json) : Option String := do render? (← ofText? s) data

end Template

structure Templates where
  entries : List (String × Template)

namespace Templates

def empty : Templates := ⟨[]⟩

variable (ts : Templates)

def register? (name text : String) : Option Templates :=
  (Template.ofText? text).map fun t => ⟨(name, t) :: ts.entries⟩

def render? (name : String) (data : Json) : Option String := do
  let entry ← ts.entries.find? fun p => p.1 == name
  Template.render? entry.2 data

end Templates

end Artboard
