import Artboard.Code.Framework
import Artboard.Host.Reading
import Artboard.Normal.Normalize

/-!
# Conversion

From the text of a selection to code: the options of a run, and everything that can go wrong.
-/

namespace Artboard

structure CodeOptions where
  componentName : String
  wrapInFile : Bool
  deriving DecidableEq

instance : Inhabited CodeOptions := ⟨⟨"Generated View", true⟩⟩

/-! ## Options in JSON -/

instance : Named Framework where
  all := [.html, .tailwind, .swiftUi, .flutter]
  name
    | .html => "html"
    | .tailwind => "tailwind"
    | .swiftUi => "swiftui"
    | .flutter => "flutter"

namespace Json

def tolerances? (v : Json) : Option (Tolerances Float) := do
  let r ← Record.ofJson? ["gap", "containment", "alignment"] v
  let usual : Tolerances Float := default
  return {
    gap := ← r.withDefault "gap" float? usual.gap
    containment := ← r.withDefault "containment" float? usual.containment
    alignment := ← r.withDefault "alignment" float? usual.alignment }

def ofTolerances (t : Tolerances Float) : Json :=
  object [("gap", ofFloat t.gap), ("containment", ofFloat t.containment),
    ("alignment", ofFloat t.alignment)]

def normalizeOptions? (v : Json) : Option (NormalizeOptions Float) := do
  let r ← Record.ofJson? ["tolerances", "infer_layout"] v
  return {
    tolerances := ← r.withDefault "tolerances" tolerances? default
    infer := ← r.withDefault "infer_layout" bool? true }

def ofNormalizeOptions (o : NormalizeOptions Float) : Json :=
  object [("tolerances", ofTolerances o.tolerances), ("infer_layout", bool o.infer)]

def codeOptions? (v : Json) : Option CodeOptions := do
  let r ← Record.ofJson? ["component_name", "wrap_in_file"] v
  let usual : CodeOptions := default
  return {
    componentName := ← r.withDefault "component_name" text? usual.componentName
    wrapInFile := ← r.withDefault "wrap_in_file" bool? usual.wrapInFile }

def ofCodeOptions (o : CodeOptions) : Json :=
  object [("component_name", text o.componentName), ("wrap_in_file", bool o.wrapInFile)]

end Json

/-! ## Running -/

inductive ConversionError
  | selection (error : SelectionError)
  | missingId (error : MissingId Float)
  | unknownNode (error : UnknownNode)
  | empty

namespace ConversionError

def message? : ConversionError → Option String
  | selection e => e.message?.map ("Invalid host input: " ++ ·)
  | missingId e => some e.message
  | unknownNode e => some e.message
  | empty => some "Nothing to generate: the selection is empty"

end ConversionError

/-- The tree of a selection given as text. A text that cannot be read leaves no context. -/
def normalizeText (o : NormalizeOptions Float) (selection : String) :
    Except ConversionError (Arena Float) × Option Context :=
  match HostNode.selectionOfText selection with
  | .error e => (.error (.selection e), none)
  | .ok nodes =>
    let (outcome, context) := normalize o nodes
    (outcome.mapError .missingId, some context)

/-- Markup asks for the sizing of an element before its children, views and widgets after them. -/
def Framework.branches (a : Arena Float) : Framework → Except UnknownNode (List (Branch Float))
  | html | tailwind => a.branches
  | swiftUi | flutter => a.branchesFromBelow

namespace Arena

def code (f : Framework) (c : Context) (a : Arena Float) : Except ConversionError String :=
  if a.roots.isEmpty then .error .empty
  else ((f.branches a).mapError .unknownNode).map fun bs => f.code c bs

end Arena

structure Conversion where
  code : String
  warnings : List String
  deriving DecidableEq

def convert (f : Framework) (n : NormalizeOptions Float) (o : CodeOptions) (selection : String) :
    Except ConversionError Conversion := do
  let (outcome, context) := normalizeText n selection
  let c := context.getD .empty
  let body ← (← outcome).code f c
  return ⟨if o.wrapInFile then f.file o.componentName body else body, c.warnings⟩

end Artboard
