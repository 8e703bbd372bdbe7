/-!
# JSON values

Values as they stand in a text: numbers keep the form they were written in, and an object keeps
every field, repeated ones included. `merge` is the reading in which a repeated field keeps its
first place and its last value. What is well formed but stands for no value may be passed over;
`isReadable` tells values without such parts.
-/

namespace Artboard

/-- Integers that fit 64 bits stay integers; every other number is a float. -/
inductive JsonNumber
  | natural (n : Nat)
  | negative (n : Nat)
  | float (x : Float)
  deriving BEq

inductive Json
  | null
  | bool (b : Bool)
  | number (n : JsonNumber)
  | text (s : String)
  | list (items : List Json)
  | object (fields : List (String × Json))
  /-- A number beyond the largest float, a text with half a surrogate pair, an object with such a
  key, or what is nested too deeply. -/
  | unreadable
  deriving Inhabited

namespace Json

mutual

def equal : Json → Json → Bool
  | null, null => true
  | bool a, bool b => a == b
  | number a, number b => a == b
  | text a, text b => a == b
  | list a, list b => equalItems a b
  | object a, object b => equalFields a b
  | unreadable, unreadable => true
  | _, _ => false

def equalItems : List Json → List Json → Bool
  | [], [] => true
  | a :: as, b :: bs => equal a b && equalItems as bs
  | _, _ => false

def equalFields : List (String × Json) → List (String × Json) → Bool
  | [], [] => true
  | (k, a) :: as, (l, b) :: bs => k == l && equal a b && equalFields as bs
  | _, _ => false

end

instance : BEq Json := ⟨equal⟩

mutual

def isReadable : Json → Bool
  | unreadable => false
  | list items => itemsReadable items
  | object fields => fieldsReadable fields
  | _ => true

def itemsReadable : List Json → Bool
  | [] => true
  | v :: rest => isReadable v && itemsReadable rest

def fieldsReadable : List (String × Json) → Bool
  | [] => true
  | (_, v) :: rest => isReadable v && fieldsReadable rest

end

def setField (key : String) (value : Json) : List (String × Json) → List (String × Json)
  | [] => [(key, value)]
  | (k, v) :: rest => if k = key then (k, value) :: rest else (k, v) :: setField key value rest

def mergeInto (done : List (String × Json)) (fields : List (String × Json)) :
    List (String × Json) :=
  fields.foldl (fun acc f => setField f.1 f.2 acc) done

mutual

/-- Repeated fields keep their first place and their last value, at every depth. -/
def merge : Json → Json
  | list items => list (mergeItems items)
  | object fields => object (mergeInto [] (mergeFields fields))
  | v => v

def mergeItems : List Json → List Json
  | [] => []
  | v :: rest => merge v :: mergeItems rest

def mergeFields : List (String × Json) → List (String × Json)
  | [] => []
  | (k, v) :: rest => (k, merge v) :: mergeFields rest

end

end Json

end Artboard
