import Artboard.Json.Value
import Artboard.Number.Binary

/-!
# Records in JSON

How typed values are laid out: a record is an object or the list of its fields, a variant carries
the name of its case under a tag, a plain case is its name. Reading gives nothing where a value
has another shape. A value that is held, since it had to be looked at as a whole before, may tag
its cases by position too.
-/

namespace Artboard

class Named (α : Type) where
  all : List α
  name : α → String

/-- Whether a value is read as it comes, or is held in full and known to be readable. -/
inductive Access
  | direct
  | held
  deriving DecidableEq

def Access.admits : Access → Json → Bool
  | .direct, v => v.isReadable
  | .held, _ => true

namespace Json

def text? : Json → Option String
  | text s => some s
  | _ => none

def bool? : Json → Option Bool
  | bool b => some b
  | _ => none

def float? {φ : Type} [BinaryFloat φ] : Json → Option φ
  | number (.natural n) => some (BinaryFloat.nearest .positive n 0)
  | number (.negative n) => some (BinaryFloat.nearest .negative n 0)
  | number (.float x) => some (BinaryFloat.convert x)
  | _ => none

def natural? (limit : Nat) : Json → Option Nat
  | number (.natural n) => if n ≤ limit then some n else none
  | _ => none

def list? {α : Type} (item : Json → Option α) : Json → Option (List α)
  | list items => items.mapM item
  | _ => none

def ofFloat {φ : Type} [BinaryFloat φ] (x : φ) : Json :=
  match BinaryFloat.unpack x with
  | .infinity _ | .notANumber => null
  | _ => number (.float (BinaryFloat.convert x))

def ofList {α : Type} (item : α → Json) (l : List α) : Json := list (l.map item)

def ofOption {α : Type} (item : α → Json) : Option α → Json
  | some a => item a
  | none => null

/-- The name of a plain case, which may also be written as the only field of an object. -/
def caseName? : Json → Option String
  | text s => some s
  | object [(s, null)] => some s
  | _ => none

def ofName? {α : Type} [Named α] (s : String) : Option α :=
  Named.all.find? fun a => Named.name a == s

def named? {α : Type} [Named α] (v : Json) : Option α := v.caseName?.bind ofName?

def namedWithin? {α : Type} [Named α] : Json → Option α
  | object [(s, object [])] => ofName? s
  | v => v.named?

def ofNamed {α : Type} [Named α] (a : α) : Json := text (Named.name a)

structure Record where
  fields : List (String × Json)

namespace Record

def ofFields? (names : List String) (fields : List (String × Json)) : Option Record :=
  let known := fields.filter fun f => names.contains f.1
  if (known.map (·.1)).Nodup then some ⟨known⟩ else none

/-- Reads an object, or a list of fields in order of which the last ones may be left out. -/
def ofJson? (names : List String) : Json → Option Record
  | object fields => ofFields? names fields
  | list items => if items.length ≤ names.length then some ⟨names.zip items⟩ else none
  | _ => none

variable (r : Record) {α : Type}

def get? (name : String) : Option Json := (r.fields.find? fun f => f.1 == name).map (·.2)

def required (name : String) (item : Json → Option α) : Option α := do item (← r.get? name)

def withDefault (name : String) (item : Json → Option α) (fallback : α) : Option α :=
  match r.get? name with
  | none => some fallback
  | some v => item v

def nullable (name : String) (item : Json → Option α) : Option (Option α) :=
  match r.get? name with
  | none | some null => some none
  | some v => (item v).map some

end Record

/-- The name under a tag. A value that is held may give the position of its case instead. -/
def tagName? (access : Access) (names : List String) : Json → Option String
  | text s => some s
  | number (.natural n) => if access = .held then some (names[n]?.getD "") else none
  | _ => none

def tagged? (access : Access) (tag : String) (names : List String) (v : Json) :
    Option (String × Json) :=
  if access.admits v then
    match v with
    | object fields =>
      match fields.filter fun f => f.1 == tag with
      | [(_, t)] =>
        (t.tagName? access names).map fun s => (s, object (fields.filter fun f => f.1 != tag))
      | _ => none
    | list (t :: rest) => (t.tagName? access names).map fun s => (s, list rest)
    | _ => none
  else none

/-- A tagged case without fields may have any in an object, but none in a list. -/
def hasNoFields : Json → Bool
  | list items => items.isEmpty
  | _ => true

end Json

end Artboard
