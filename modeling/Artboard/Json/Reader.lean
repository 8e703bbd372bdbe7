import Artboard.Json.Token

/-!
# Reading JSON

Tokens put together into values, with a stack for the lists and objects still open. Reading stops
at the end of the first value and hands back the tokens after it. What is nested too deeply or
has a key that stands for no text is read to its end, but stands for no value.
-/

namespace Artboard

namespace Json

/-- A list or an object still open, its members so far last first. -/
inductive Frame
  | items (done : List Json)
  | fields (done : List (String × Json)) (key : String)
  | lost (isObject : Bool)

inductive Expect
  | value
  | valueOrClose
  | key
  | keyOrClose
  | colon
  | commaOrClose

/-- As many lists and objects may be open at a time around what is read. -/
def depthLimit : Nat := 127

def closeFrame : Frame → Json
  | .items done => .list done.reverse
  | .fields done _ => .object done.reverse
  | .lost _ => .unreadable

def addTo (v : Json) : Frame → Frame
  | .items done => .items (v :: done)
  | .fields done key => .fields ((key, v) :: done) key
  | .lost isObject => .lost isObject

def Frame.isObject : Frame → Bool
  | items _ => false
  | fields .. => true
  | lost isObject => isObject

def takeKey (key? : Option String) : Frame → Frame
  | .fields done _ =>
    match key? with
    | some k => .fields done k
    | none => .lost true
  | f => f

def closes (f : Frame) : JsonToken → Bool
  | .closeList => !f.isObject
  | .closeObject => f.isObject
  | _ => false

def tooDeep (stack : List Frame) : Bool := !(stack.drop (depthLimit - 1)).isEmpty

def read (e : Expect) (stack : List Frame) : List JsonToken → Option (Json × List JsonToken)
  | [] => none
  | t :: ts =>
    let value (v : Json) (stack : List Frame) := match stack with
      | [] => some (v, ts)
      | f :: below => read .commaOrClose (addTo v f :: below) ts
    let enter (e : Expect) (f : Frame) :=
      read e ((if tooDeep stack then .lost f.isObject else f) :: stack) ts
    match e, t, stack with
    | .value, .scalar v, _ | .valueOrClose, .scalar v, _ => value v stack
    | .value, .text s?, _ | .valueOrClose, .text s?, _ =>
      value ((s?.map Json.text).getD .unreadable) stack
    | .value, .openList, _ | .valueOrClose, .openList, _ => enter .valueOrClose (.items [])
    | .value, .openObject, _ | .valueOrClose, .openObject, _ => enter .keyOrClose (.fields [] "")
    | .key, .text k?, f :: below | .keyOrClose, .text k?, f :: below =>
      read .colon (takeKey k? f :: below) ts
    | .colon, .colon, _ => read .value stack ts
    | .commaOrClose, .comma, f :: _ => read (if f.isObject then .key else .value) stack ts
    | .valueOrClose, t, f :: below | .keyOrClose, t, f :: below | .commaOrClose, t, f :: below =>
      if closes f t then value (closeFrame f) below else none
    | _, _, _ => none

def readFirst? (s : String) : Option (Json × Bool) :=
  (read .value [] (JsonToken.ofText s)).map fun p => (p.1, p.2.isEmpty)

def ofText? (s : String) : Option Json := do
  let (v, alone) ← readFirst? s
  if alone then some v else none

end Json

end Artboard
