import Artboard.Host.Values
import Artboard.Json.Reader

/-!
# Reading and writing host nodes

A node is an object whose known fields have defaults, except its kind. Fields of any other name
are kept as they come. A selection is one node or a list of them; which of the two has to be
found out first, so it is held when its nodes are read.
-/

namespace Artboard

namespace Json

def hostSegment? (access : Access) (v : Json) : Option HostSegment := do
  let r ← Record.ofJson? ["characters", "fontName", "fontWeight", "fontSize", "lineHeight",
    "letterSpacing", "textDecoration", "textCase", "fills"] v
  return {
    characters := ← r.required "characters" text?
    font := ← r.withDefault "fontName" font? default
    weight := ← r.withDefault "fontWeight" (natural? 65535) 400
    size := ← r.required "fontSize" float?
    lineHeight := ← r.withDefault "lineHeight" (lineHeight? access) default
    letterSpacing := ← r.withDefault "letterSpacing" (letterSpacing? access) default
    decoration := ← r.withDefault "textDecoration" named? default
    case := ← r.withDefault "textCase" named? default
    fills := ← r.withDefault "fills" (list? (hostPaint? access)) [] }

def ofHostSegment (s : HostSegment) : Json :=
  object [("characters", text s.characters), ("fontName", ofFont s.font),
    ("fontWeight", number (.natural s.weight)), ("fontSize", ofFloat s.size),
    ("lineHeight", ofLineHeight s.lineHeight), ("letterSpacing", ofLetterSpacing s.letterSpacing),
    ("textDecoration", ofNamed s.decoration), ("textCase", ofNamed s.case),
    ("fills", ofList ofHostPaint s.fills)]

def hostFields : List String :=
  ["id", "name", "type", "x", "y", "width", "height", "rotation", "visible", "opacity",
    "blendMode", "fills", "strokes", "strokeWeight", "strokeAlign", "cornerRadius",
    "topLeftRadius", "topRightRadius", "bottomRightRadius", "bottomLeftRadius", "effects",
    "layoutGrow", "layoutAlign", "layoutMode", "primaryAxisSizingMode", "counterAxisSizingMode",
    "primaryAxisAlignItems", "counterAxisAlignItems", "paddingLeft", "paddingRight", "paddingTop",
    "paddingBottom", "itemSpacing", "clipsContent", "characters", "fontSize", "fontName",
    "textAlignHorizontal", "textAlignVertical", "textAutoResize", "styledSegments", "children"]

def extraFields? (access : Access) (fields : List (String × Json)) :
    Option (List (String × Json)) :=
  let others := fields.filter fun f => !hostFields.contains f.1
  if access.admits (object others) then some (mergeInto [] (mergeFields others)) else none

def hostProps? (access : Access) (fields : List (String × Json)) : Option (HostProps Float) := do
  let r ← Record.ofFields? hostFields fields
  let number (name : String) : Option Float := r.withDefault name float? 0
  return {
    id := ← r.withDefault "id" text? ""
    name := ← r.withDefault "name" text? ""
    kind := ← r.required "type" hostKind?
    geometry :=
      ⟨← number "x", ← number "y", ← number "width", ← number "height", ← number "rotation"⟩
    visible := ← r.withDefault "visible" bool? true
    opacity := ← r.withDefault "opacity" float? 1
    blendMode := ← r.withDefault "blendMode" named? default
    fills := ← r.withDefault "fills" (mixed? access (list? (hostPaint? .held))) default
    strokes := ← r.withDefault "strokes" (list? (hostPaint? access)) []
    strokeWeight := ← r.withDefault "strokeWeight" (mixed? access float?) default
    strokeAlign := ← r.withDefault "strokeAlign" named? default
    cornerRadius := ← r.withDefault "cornerRadius" (mixed? access float?) default
    topLeftRadius := ← r.nullable "topLeftRadius" float?
    topRightRadius := ← r.nullable "topRightRadius" float?
    bottomRightRadius := ← r.nullable "bottomRightRadius" float?
    bottomLeftRadius := ← r.nullable "bottomLeftRadius" float?
    effects := ← r.withDefault "effects" (list? (effect? access)) []
    layoutGrow := ← number "layoutGrow"
    layoutAlign := ← r.withDefault "layoutAlign" named? default
    layoutMode := ← r.nullable "layoutMode" named?
    primarySizing := ← r.withDefault "primaryAxisSizingMode" named? default
    counterSizing := ← r.withDefault "counterAxisSizingMode" named? default
    primaryAlign := ← r.withDefault "primaryAxisAlignItems" named? default
    counterAlign := ← r.withDefault "counterAxisAlignItems" named? default
    paddingLeft := ← number "paddingLeft"
    paddingRight := ← number "paddingRight"
    paddingTop := ← number "paddingTop"
    paddingBottom := ← number "paddingBottom"
    itemSpacing := ← number "itemSpacing"
    clipsContent := ← r.withDefault "clipsContent" bool? false
    characters := ← r.nullable "characters" text?
    fontSize := ← r.withDefault "fontSize" (mixed? access float?) default
    font := ← r.withDefault "fontName" (mixed? access font?) default
    textAlign := ← r.withDefault "textAlignHorizontal" named? default
    textAlignVertical := ← r.withDefault "textAlignVertical" named? default
    textAutoResize := ← r.withDefault "textAutoResize" named? default
    segments := ← r.withDefault "styledSegments" (list? (hostSegment? access)) []
    extra := ← extraFields? access fields }

mutual

def hostNode? (access : Access) : Json → Option (HostNode Float)
  | object fields =>
    do return .node (← hostProps? access fields) (← childrenField? access fields)
  | _ => none

def childrenField? (access : Access) : List (String × Json) → Option (List (HostNode Float))
  | [] => some []
  | (k, v) :: rest => if k = "children" then childList? access v else childrenField? access rest

def childList? (access : Access) : Json → Option (List (HostNode Float))
  | list items => hostNodes? access items
  | _ => none

def hostNodes? (access : Access) : List Json → Option (List (HostNode Float))
  | [] => some []
  | v :: rest => do return (← hostNode? access v) :: (← hostNodes? access rest)

end

def selection? : Json → Option (List (HostNode Float))
  | list items => hostNodes? .held items
  | v => (hostNode? .held v).map ([·])

def hostPropsFields (p : HostProps Float) : List (String × Json) :=
  [("id", text p.id), ("name", text p.name), ("type", text p.kind.name),
    ("x", ofFloat p.geometry.x), ("y", ofFloat p.geometry.y),
    ("width", ofFloat p.geometry.width), ("height", ofFloat p.geometry.height),
    ("rotation", ofFloat p.geometry.rotation), ("visible", bool p.visible),
    ("opacity", ofFloat p.opacity), ("blendMode", ofNamed p.blendMode),
    ("fills", ofMixed (ofList ofHostPaint) p.fills), ("strokes", ofList ofHostPaint p.strokes),
    ("strokeWeight", ofMixed ofFloat p.strokeWeight), ("strokeAlign", ofNamed p.strokeAlign),
    ("cornerRadius", ofMixed ofFloat p.cornerRadius),
    ("topLeftRadius", ofOption ofFloat p.topLeftRadius),
    ("topRightRadius", ofOption ofFloat p.topRightRadius),
    ("bottomRightRadius", ofOption ofFloat p.bottomRightRadius),
    ("bottomLeftRadius", ofOption ofFloat p.bottomLeftRadius),
    ("effects", ofList ofEffect p.effects), ("layoutGrow", ofFloat p.layoutGrow),
    ("layoutAlign", ofNamed p.layoutAlign), ("layoutMode", ofOption ofNamed p.layoutMode),
    ("primaryAxisSizingMode", ofNamed p.primarySizing),
    ("counterAxisSizingMode", ofNamed p.counterSizing),
    ("primaryAxisAlignItems", ofNamed p.primaryAlign),
    ("counterAxisAlignItems", ofNamed p.counterAlign), ("paddingLeft", ofFloat p.paddingLeft),
    ("paddingRight", ofFloat p.paddingRight), ("paddingTop", ofFloat p.paddingTop),
    ("paddingBottom", ofFloat p.paddingBottom), ("itemSpacing", ofFloat p.itemSpacing),
    ("clipsContent", bool p.clipsContent), ("characters", ofOption text p.characters),
    ("fontSize", ofMixed ofFloat p.fontSize), ("fontName", ofMixed ofFont p.font),
    ("textAlignHorizontal", ofNamed p.textAlign),
    ("textAlignVertical", ofNamed p.textAlignVertical),
    ("textAutoResize", ofNamed p.textAutoResize),
    ("styledSegments", ofList ofHostSegment p.segments)]

mutual

def ofHostNode : HostNode Float → Json
  | .node p children =>
    object (hostPropsFields p ++ ("children", list (ofHostNodes children)) :: p.extra)

def ofHostNodes : List (HostNode Float) → List Json
  | [] => []
  | n :: rest => ofHostNode n :: ofHostNodes rest

end

end Json

inductive SelectionError
  | malformed
  | shape
  deriving DecidableEq, Repr

namespace SelectionError

def message? : SelectionError → Option String
  | malformed => none
  | shape => some "data did not match any variant of untagged enum Selection"

end SelectionError

namespace HostNode

/-- The shape of the first value counts before what follows it. -/
def selectionOfText (s : String) : Except SelectionError (List (HostNode Float)) :=
  match Json.readFirst? s with
  | none => .error .malformed
  | some (v, alone) =>
    if v.isReadable then
      match v.selection? with
      | none => .error .shape
      | some nodes => if alone then .ok nodes else .error .malformed
    else .error .malformed

end HostNode

end Artboard
