import Artboard.Code.Figures
import Artboard.Proofs.Brackets
import Artboard.Scene.Branch

/-!
# Vocabulary of expressions

An expression keeps to a vocabulary if it calls only names of it, and if all its brackets and quotes
come from its calls, lists and literals. Then its text can be read back: the brackets match, and the
literals are those of the expression.
-/

open List

namespace Artboard

def IsPlain (s : String) : Prop := ∀ c ∈ s.toList, CodeReader.isPlain c = true

instance (s : String) : Decidable (IsPlain s) :=
  decidable_of_iff (s.toList.all CodeReader.isPlain = true) all_eq_true

@[simp] theorem isPlain_append {s t : String} : IsPlain (s ++ t) ↔ IsPlain s ∧ IsPlain t := by
  simp only [IsPlain, String.toList_append, forall_mem_append]

theorem IsNumeric.isPlain {s : String} (h : IsNumeric s) : IsPlain s := fun c hc =>
  CodeReader.isPlain_of_isNumeric (h c hc)

@[simp] theorem isPlain_nat (n : Nat) : IsPlain n.repr := (isNumeric_nat n).isPlain

@[simp] theorem isPlain_int (n : Int) : IsPlain n.repr := (isNumeric_int n).isPlain

@[simp] theorem isPlain_extentName (axis : Axis) : IsPlain axis.extentName := by
  cases axis <;> decide

structure Vocabulary where
  names : String → Prop
  literals : Prop

def Vocabulary.any (q : Prop) : Vocabulary where
  names _ := True
  literals := q

namespace Expr

mutual

/-- Brackets and quotes come from calls, lists and literals alone, and these are in the
vocabulary. -/
def Keeps (v : Vocabulary) : Expr → Prop
  | atom code => IsPlain code
  | literal _ => v.literals
  | number _ _ => True
  | call _ name as => (v.names name ∧ IsPlain name) ∧ KeepsArguments v as
  | list _ items => KeepsAll v items
  | method r name as => (Keeps v r ∧ IsPlain name) ∧ KeepsArguments v as
  | sum terms => KeepsAll v terms

def KeepsAll (v : Vocabulary) : List Expr → Prop
  | [] => True
  | e :: rest => Keeps v e ∧ KeepsAll v rest

def KeepsArguments (v : Vocabulary) : List Argument → Prop
  | [] => True
  | (label, e) :: rest => (IsPlain label ∧ Keeps v e) ∧ KeepsArguments v rest

end

mutual

/-- The texts of the literals, in the order of the code. -/
def spoken : Expr → List String
  | atom _ | number _ _ => []
  | literal s => [s]
  | call _ _ as => spokenOfArguments as
  | list _ items => spokenOfAll items
  | method r _ as => spoken r ++ spokenOfArguments as
  | sum terms => spokenOfAll terms

def spokenOfAll : List Expr → List String
  | [] => []
  | e :: rest => spoken e ++ spokenOfAll rest

def spokenOfArguments : List Argument → List String
  | [] => []
  | (_, e) :: rest => spoken e ++ spokenOfArguments rest

end

attribute [simp] Keeps KeepsAll KeepsArguments spoken spokenOfAll spokenOfArguments

section
variable {v : Vocabulary}

@[simp] theorem names_any {q : Prop} {n : String} : (Vocabulary.any q).names n := trivial

@[simp] theorem literals_any {q : Prop} : (Vocabulary.any q).literals ↔ q := Iff.rfl

@[simp] theorem keeps_length (x : Float) : (length x).Keeps v := trivial

@[simp] theorem keeps_fraction (x : Float) : (fraction x).Keeps v := trivial

@[simp] theorem spoken_length (x : Float) : (length x).spoken = [] := rfl

theorem keepsAll_iff : ∀ {es : List Expr}, KeepsAll v es ↔ ∀ e ∈ es, e.Keeps v
  | [] => by simp
  | e :: es => by rw [KeepsAll, keepsAll_iff, forall_mem_cons]

@[simp] theorem keepsArguments_append {as bs : List Argument} :
    KeepsArguments v (as ++ bs) ↔ KeepsArguments v as ∧ KeepsArguments v bs := by
  induction as with
  | nil => simp
  | cons a as ih => simp only [cons_append, KeepsArguments, ih, and_assoc]

end

theorem spokenOfAll_eq : ∀ es : List Expr, spokenOfAll es = es.flatMap spoken
  | [] => rfl
  | e :: es => by rw [spokenOfAll, spokenOfAll_eq es, flatMap_cons]

@[simp] theorem spokenOfArguments_append (as bs : List Argument) :
    spokenOfArguments (as ++ bs) = spokenOfArguments as ++ spokenOfArguments bs := by
  induction as with
  | nil => rfl
  | cons a as ih => rw [cons_append, spokenOfArguments, spokenOfArguments, ih, append_assoc]

mutual

theorem Keeps.mono {v w : Vocabulary} (hnames : ∀ n, v.names n → w.names n)
    (hliterals : v.literals → w.literals) : ∀ {e : Expr}, e.Keeps v → e.Keeps w
  | atom _, h => h
  | literal _, h => hliterals h
  | number _ _, _ => trivial
  | call _ _ _, h => ⟨⟨hnames _ h.1.1, h.1.2⟩, KeepsArguments.mono hnames hliterals h.2⟩
  | list _ _, h => KeepsAll.mono hnames hliterals h
  | method _ _ _, h =>
    ⟨⟨Keeps.mono hnames hliterals h.1.1, h.1.2⟩, KeepsArguments.mono hnames hliterals h.2⟩
  | sum _, h => KeepsAll.mono hnames hliterals h

theorem KeepsAll.mono {v w : Vocabulary} (hnames : ∀ n, v.names n → w.names n)
    (hliterals : v.literals → w.literals) : ∀ {es : List Expr}, KeepsAll v es → KeepsAll w es
  | [], _ => trivial
  | _ :: _, h => ⟨Keeps.mono hnames hliterals h.1, KeepsAll.mono hnames hliterals h.2⟩

theorem KeepsArguments.mono {v w : Vocabulary} (hnames : ∀ n, v.names n → w.names n)
    (hliterals : v.literals → w.literals) : ∀ {as : List Argument},
      KeepsArguments v as → KeepsArguments w as
  | [], _ => trivial
  | (_, _) :: _, h =>
    ⟨⟨h.1.1, Keeps.mono hnames hliterals h.1.2⟩, KeepsArguments.mono hnames hliterals h.2⟩

end

mutual

theorem spoken_eq_nil {v : Vocabulary} (hv : ¬v.literals) : ∀ {e : Expr}, e.Keeps v → e.spoken = []
  | atom _, _ | number _ _, _ => rfl
  | literal _, h => absurd h hv
  | call _ _ _, h => spokenOfArguments_eq_nil hv h.2
  | list _ _, h => spokenOfAll_eq_nil hv h
  | method _ _ _, h => by
    rw [spoken, spoken_eq_nil hv h.1.1, spokenOfArguments_eq_nil hv h.2, nil_append]
  | sum _, h => spokenOfAll_eq_nil hv h

theorem spokenOfAll_eq_nil {v : Vocabulary} (hv : ¬v.literals) : ∀ {es : List Expr},
    KeepsAll v es → spokenOfAll es = []
  | [], _ => rfl
  | _ :: _, h => by rw [spokenOfAll, spoken_eq_nil hv h.1, spokenOfAll_eq_nil hv h.2, nil_append]

theorem spokenOfArguments_eq_nil {v : Vocabulary} (hv : ¬v.literals) : ∀ {as : List Argument},
    KeepsArguments v as → spokenOfArguments as = []
  | [], _ => rfl
  | (_, _) :: _, h => by
    rw [spokenOfArguments, spoken_eq_nil hv h.1.2, spokenOfArguments_eq_nil hv h.2, nil_append]

end

/-! ## Texts of expressions -/

section
variable {d : Char} (hd : CodeReader.IsDelimiter d)
include hd

theorem yields_isPlain {s : String} (h : IsPlain s) : CodeReader.Yields d s.toList [] :=
  CodeReader.yields_plain hd h

theorem yields_labelled {label code : String} {us : List String} (hlabel : IsPlain label)
    (hcode : CodeReader.Yields d code.toList us) :
    CodeReader.Yields d (labelled label code).toList us := by
  unfold labelled
  split
  · exact hcode
  · have hboth : IsPlain (label ++ ": ") := isPlain_append.mpr ⟨hlabel, by decide⟩
    rw [String.toList_append]
    exact (CodeReader.isAdditive_yields d).append (yields_isPlain hd hboth) hcode

theorem yields_arrange (tall : Bool) {members : List String} {us : List String}
    (h : Each (fun m : String => CodeReader.Yields d m.toList) members us) :
    CodeReader.Yields d (arrange tall members).toList us := by
  have hadd := CodeReader.isAdditive_yields d
  have htall : ∀ {m : String} {vs : List String}, CodeReader.Yields d m.toList vs →
      CodeReader.Yields d (indentLines m 2 ++ ",\n").toList vs := by
    intro m vs hm
    have hcomma := yields_isPlain hd (s := ",\n") (by decide)
    have hline := hadd.append (hm.indent hd 2) hcomma
    rw [append_nil] at hline
    rwa [String.toList_append, indentLines, String.toList_ofList]
  unfold arrange
  split
  · rw [String.toList_append]
    exact hadd.append (yields_isPlain hd (s := "\n") (by decide)) (hadd.join (h.map htall))
  · exact hadd.intercalate (yields_isPlain hd (by decide)) h

theorem yields_bracketed {o c : String} {oc cc : Char} (ho : o.toList = [oc]) (hc : c.toList = [cc])
    (hclosing : CodeReader.closing? oc = some cc) {s : String} {us : List String}
    (h : CodeReader.Yields d s.toList us) : CodeReader.Yields d (o ++ s ++ c).toList us := by
  have hall := h.bracketed hd hclosing
  rw [String.toList_append, String.toList_append, ho, hc]
  simpa using hall

end

section
variable {v : Vocabulary} {l : Literals}

mutual

/-- **The literals of a text are those of the expression,** and its brackets match. -/
theorem yields_text (hl : l.IsSound) : ∀ e : Expr, e.Keeps v →
    CodeReader.Yields l.delimiter (e.text l).toList (e.spoken.map l.inside)
  | atom code, h => yields_isPlain hl.isDelimiter h
  | literal s, _ => hl.yields_quote s
  | number places x, _ =>
    yields_isPlain hl.isDelimiter (Figure.isNumeric_withPlaces places x).isPlain
  | call tall name as, h => by
    have hadd := CodeReader.isAdditive_yields l.delimiter
    have hinside := yields_bracketed hl.isDelimiter (o := "(") (c := ")") rfl rfl rfl
      (yields_arrange hl.isDelimiter tall (each_argumentTexts hl as h.2))
    have hall := hadd.append (yields_isPlain hl.isDelimiter h.1.2) hinside
    rw [text, spoken]
    simpa [String.append_assoc] using hall
  | list tall items, h => by
    rw [text, spoken]
    exact yields_bracketed hl.isDelimiter (o := "[") (c := "]") rfl rfl rfl
      (yields_arrange hl.isDelimiter tall (each_texts hl items h))
  | method r name as, h => by
    have hadd := CodeReader.isAdditive_yields l.delimiter
    have hname : IsPlain ("." ++ name) := isPlain_append.mpr ⟨by decide, h.1.2⟩
    have hinside := yields_bracketed hl.isDelimiter (o := "(") (c := ")") rfl rfl rfl
      (yields_arrange hl.isDelimiter false (each_argumentTexts hl as h.2))
    have hall := hadd.append (hadd.append (yields_text hl r h.1.1)
      (yields_isPlain hl.isDelimiter hname)) hinside
    rw [text, spoken, map_append]
    simpa [String.append_assoc] using hall
  | sum terms, h => by
    have hadd := CodeReader.isAdditive_yields l.delimiter
    rw [text, spoken]
    exact yields_bracketed hl.isDelimiter (o := "(") (c := ")") rfl rfl rfl
      (hadd.intercalate (yields_isPlain hl.isDelimiter (by decide)) (each_texts hl terms h))

theorem each_texts (hl : l.IsSound) : ∀ es : List Expr, KeepsAll v es →
    Each (fun s : String => CodeReader.Yields l.delimiter s.toList) (texts l es)
      ((spokenOfAll es).map l.inside)
  | [], _ => .nil
  | e :: es, h => by
    rw [texts, spokenOfAll, map_append]
    exact .cons (yields_text hl e h.1) (each_texts hl es h.2)

theorem each_argumentTexts (hl : l.IsSound) : ∀ as : List Argument, KeepsArguments v as →
    Each (fun s : String => CodeReader.Yields l.delimiter s.toList) (argumentTexts l as)
      ((spokenOfArguments as).map l.inside)
  | [], _ => .nil
  | (label, e) :: as, h => by
    rw [argumentTexts, spokenOfArguments, map_append]
    exact .cons (yields_labelled hl.isDelimiter h.1.1 (yields_text hl e h.1.2))
      (each_argumentTexts hl as h.2)

end

end

theorem Keeps.any {v : Vocabulary} {e : Expr} (h : e.Keeps v) : e.Keeps (.any True) :=
  h.mono (fun _ _ => trivial) fun _ => trivial

theorem KeepsArguments.any {v : Vocabulary} {as : List Argument} (h : KeepsArguments v as) :
    KeepsArguments (.any True) as :=
  h.mono (fun _ _ => trivial) fun _ => trivial

structure Speaks (e : Expr) (us : List String) : Prop where
  keeps : e.Keeps (.any True)
  spoken_eq : e.spoken = us

theorem Keeps.speaks {v : Vocabulary} {e : Expr} (h : e.Keeps v) (hv : ¬v.literals) :
    e.Speaks [] :=
  ⟨h.any, spoken_eq_nil hv h⟩

theorem keepsAll_of_each {es : List Expr} {us : List String} (h : Each Speaks es us) :
    KeepsAll (.any True) es := by
  induction h with
  | nil => trivial
  | cons he _ ih => exact ⟨he.keeps, ih⟩

theorem spokenOfAll_of_each {es : List Expr} {us : List String} (h : Each Speaks es us) :
    spokenOfAll es = us := by
  induction h with
  | nil => rfl
  | cons he _ ih => rw [spokenOfAll, he.spoken_eq, ih]

end Expr

/-! ## Texts of branches -/

def TextRun.spoken (r : TextRun) : List String := [r.case.apply r.characters, r.font.family]

def TextContent.spoken (runs : List TextRun) (content : TextContent) : List String :=
  match runs with
  | [] => [content.characters]
  | rs => rs.flatMap TextRun.spoken

namespace Branch

mutual

/-- All that is said in the code of a branch, where a picture is named in some way. -/
def spoken (picture : List String) (c : Context) : Branch Float → List String
  | .node site children =>
    match site.element.kind with
    | .container _ | .group => spokenOfAll picture c children
    | .text content => content.spoken (site.element.textRuns c)
    | .boolean => picture
    | _ => []

def spokenOfAll (picture : List String) (c : Context) : List (Branch Float) → List String
  | [] => []
  | b :: rest => spoken picture c b ++ spokenOfAll picture c rest

end

end Branch

end Artboard
