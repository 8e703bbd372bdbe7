import Artboard.Json.Value
import Artboard.Number.Decimal
import Artboard.Text.Lines
import Artboard.Text.Words

/-!
# Helpers

What a tag can do with operands: write a name in some style, shift lines, look up, compare and
count values.
-/

namespace Artboard

inductive Helper
  | rename (style : NameStyle)
  | indent
  | hang
  | block (operands : Nat)
  | log
  | lookup
  | equal (expected : Bool)
  | order (accepted : List Ordering)
  | both
  | either
  | negate
  | size
  deriving DecidableEq

namespace Helper

def all : List (String × Helper) :=
  [("pascal_case", rename .pascal), ("camel_case", rename .camel), ("snake_case", rename .snake),
    ("kebab_case", rename .kebab), ("title_case", rename .title), ("indent", indent),
    ("hang", hang), ("if", block 1), ("unless", block 1), ("each", block 1), ("with", block 1),
    ("raw", block 0), ("log", log), ("lookup", lookup), ("eq", equal true), ("ne", equal false),
    ("gt", order [.gt]), ("gte", order [.gt, .eq]), ("lt", order [.lt]),
    ("lte", order [.lt, .eq]), ("and", both), ("or", either), ("not", negate), ("len", size)]

def ofName? (name : String) : Option Helper := (all.find? fun p => p.1 == name).map (·.2)

/-! ## Values -/

def field? (fields : List (String × Json)) (name : String) : Option Json :=
  (fields.find? fun f => f.1 == name).map (·.2)

mutual

def same : Json → Json → Bool
  | .list a, .list b => sameItems a b
  | .object a, .object b => a.length == b.length && sameFields b a
  | a, b => a == b

def sameItems : List Json → List Json → Bool
  | [], [] => true
  | a :: as, b :: bs => same a b && sameItems as bs
  | _, _ => false

def sameFields (others : List (String × Json)) : List (String × Json) → Bool
  | [] => true
  | (k, a) :: rest =>
    (match field? others k with
      | some b => same a b
      | none => false) && sameFields others rest

end

def smallestNormal : Float := 2.2250738585072014e-308

def isTrue : Json → Bool
  | .null | .unreadable => false
  | .bool b => b
  | .number (.natural n) | .number (.negative n) => n != 0
  | .number (.float x) => smallestNormal ≤ Scalar.magnitude x && x.isFinite
  | .text s => !s.isEmpty
  | .list items => !items.isEmpty
  | .object fields => !fields.isEmpty

def integer? : Json → Option Int
  | .number (.natural n) => if n < twoTo 63 then some n else none
  | .number (.negative n) => some (-n)
  | _ => none

def found? : Json → Json → Option Json
  | .list items, .number (.natural n) => items[n]?
  | .object fields, .text name => field? fields name
  | _, _ => none

def sizeOf : Json → Nat
  | .text s => s.utf8ByteSize
  | .list items => items.length
  | .object fields => fields.length
  | _ => 0

def logLevels : List String := ["error", "warn", "info", "debug", "trace"]

/-- A log line is shown nowhere, but its level has to be one there is. -/
def levelExists (options : List (String × Json)) : Bool :=
  match field? options "level" with
  | some (.text s) => logLevels.contains s.toLower
  | _ => true

/-- Operands after those a helper needs are ignored, and so are options it does not know. -/
def result? (options : List (String × Json)) : Helper → List Json → Option Json
  | rename style, .text s :: _ => some (.text (style.apply s))
  | indent, .text s :: .number (.natural n) :: _ => some (.text (indentLines s n))
  | hang, .text s :: .number (.natural n) :: _ => some (.text (hangLines s n))
  | block n, vs => if n ≤ vs.length then some (.text "") else none
  | log, _ => if levelExists options then some (.text "") else none
  | lookup, v :: i :: _ => some ((found? v i).getD .null)
  | equal expected, v :: w :: _ => some (.bool (same v w == expected))
  | order accepted, v :: w :: _ => do
    return .bool (accepted.contains (compare (← integer? v) (← integer? w)))
  | both, v :: w :: _ => some (.bool (isTrue v && isTrue w))
  | either, v :: w :: _ => some (.bool (isTrue v || isTrue w))
  | negate, v :: _ => some (.bool (!isTrue v))
  | size, v :: _ => some (.number (.natural (sizeOf v)))
  | _, _ => none

end Helper

end Artboard
