import Artboard.Code.Expr
import Artboard.Proofs.Quotes
import Artboard.Proofs.Reading

/-!
# Brackets and literals of code

Code in a programming language is read for its brackets, which have to match and to nest, and for
the literals between them, in which brackets do not count. As no line ends inside a literal, lines
can be shifted without a change to what is read.
-/

open List

namespace Artboard

/-! ## Reading code -/

inductive CodeMode
  | code
  | literal (read : List Char)
  | escaped (read : List Char)

structure CodeReader where
  pending : List Char
  literals : List String
  mode : CodeMode

namespace CodeReader

def closing? : Char → Option Char
  | '(' => some ')'
  | '[' => some ']'
  | '\x7b' => some '\x7d'
  | _ => none

def isClosing (c : Char) : Bool := c == ')' || c == ']' || c == '\x7d'

/-- No line ends inside a literal, and no delimiter after a backslash closes it. -/
def step (delimiter : Char) : CodeReader → Char → Option CodeReader
  | ⟨ps, ls, .code⟩, c =>
    if c = delimiter then some ⟨ps, ls, .literal []⟩
    else
      match closing? c with
      | some p => some ⟨p :: ps, ls, .code⟩
      | none =>
        if isClosing c then
          match ps with
          | p :: ps => if c = p then some ⟨ps, ls, .code⟩ else none
          | [] => none
        else some ⟨ps, ls, .code⟩
  | ⟨ps, ls, .literal w⟩, c =>
    if c = delimiter then some ⟨ps, ls ++ [String.ofList w], .code⟩
    else if c = '\n' then none
    else if c = '\\' then some ⟨ps, ls, .escaped (w ++ [c])⟩
    else some ⟨ps, ls, .literal (w ++ [c])⟩
  | ⟨ps, ls, .escaped w⟩, c => if c = '\n' then none else some ⟨ps, ls, .literal (w ++ [c])⟩

def run (delimiter : Char) (r : CodeReader) (cs : List Char) : Option CodeReader :=
  cs.foldlM (step delimiter) r

end CodeReader

/-- The literals of code, in written form. There are none if a bracket does not match or a literal
stays open. -/
def readLiterals (delimiter : Char) (s : String) : Option (List String) :=
  match CodeReader.run delimiter ⟨[], [], .code⟩ s.toList with
  | some ⟨[], ls, .code⟩ => some ls
  | _ => none

namespace CodeReader

def isPlain : Char → Bool
  | '(' | ')' | '[' | ']' | '\x7b' | '\x7d' | '\'' | '"' => false
  | _ => true

def IsDelimiter (d : Char) : Prop := d = '"' ∨ d = '\''

section
variable {d c : Char}

theorem ne_of_isPlain (h : isPlain c = true) (hd : isPlain d = false) : c ≠ d := by
  rintro rfl
  rw [h] at hd
  cases hd

theorem closing?_of_isPlain (h : isPlain c = true) : closing? c = none := by
  unfold closing?
  split
  · cases h
  · cases h
  · cases h
  · rfl

theorem isClosing_of_isPlain (h : isPlain c = true) : isClosing c = false := by
  have hparen := ne_of_isPlain h (d := ')') rfl
  have hbracket := ne_of_isPlain h (d := ']') rfl
  have hbrace := ne_of_isPlain h (d := '\x7d') rfl
  simp [isClosing, hparen, hbracket, hbrace]

theorem IsDelimiter.isPlain_eq_false (hd : IsDelimiter d) : isPlain d = false := by
  rcases hd with rfl | rfl
  · rfl
  · rfl

theorem isPlain_of_any_eq_false {p : Char → Bool}
    (hp : ['(', ')', '[', ']', '\x7b', '\x7d', '\'', '"'].any p = false)
    (h : p c = true) : isPlain c = true := by
  have hne : ∀ d ∈ ['(', ')', '[', ']', '\x7b', '\x7d', '\'', '"'], c ≠ d := by
    rintro d hd rfl
    exact any_eq_false.mp hp c hd h
  unfold isPlain
  split
  all_goals first | rfl | exact absurd rfl (hne _ (by decide))

theorem isPlain_of_isBlankChar (h : isBlankChar c = true) : isPlain c = true :=
  isPlain_of_any_eq_false rfl h

theorem isPlain_of_isNumeric (h : isNumeric c = true) : isPlain c = true :=
  isPlain_of_any_eq_false rfl h

end

theorem run_nil (d : Char) (r : CodeReader) : run d r [] = some r := rfl

theorem run_cons (d : Char) (r : CodeReader) (c : Char) (cs : List Char) :
    run d r (c :: cs) = (step d r c).bind fun r => run d r cs := rfl

theorem run_append (d : Char) (r : CodeReader) (cs ds : List Char) :
    run d r (cs ++ ds) = (run d r cs).bind fun r => run d r ds := foldlM_append

/-- What a text adds to the literals, read from code to code. -/
def Yields (d : Char) (cs : List Char) (added : List String) : Prop :=
  ∀ ps ls, run d ⟨ps, ls, .code⟩ cs = some ⟨ps, ls ++ added, .code⟩

theorem isAdditive_yields (d : Char) : IsAdditive (Yields d) where
  nil ps ls := by rw [run_nil, append_nil]
  append := by
    intro cs ds us vs hcs hds ps ls
    rw [run_append, hcs, Option.bind_some, hds, append_assoc]

section
variable {d : Char} (hd : IsDelimiter d)
include hd

theorem step_plain {c : Char} (h : isPlain c = true) (ps : List Char) (ls : List String) :
    step d ⟨ps, ls, .code⟩ c = some ⟨ps, ls, .code⟩ := by
  simp [step, ne_of_isPlain h hd.isPlain_eq_false, closing?_of_isPlain h, isClosing_of_isPlain h]

theorem run_plain {ps : List Char} {ls : List String} : ∀ {cs : List Char},
    (∀ c ∈ cs, isPlain c = true) → run d ⟨ps, ls, .code⟩ cs = some ⟨ps, ls, .code⟩
  | [], _ => rfl
  | c :: cs, h => by
    rw [forall_mem_cons] at h
    rw [run_cons, step_plain hd h.1, Option.bind_some, run_plain h.2]

theorem yields_plain {cs : List Char} (h : ∀ c ∈ cs, isPlain c = true) : Yields d cs [] := by
  intro ps ls
  rw [run_plain hd h, append_nil]

theorem Yields.bracketed {o c : Char} (ho : closing? o = some c) {cs : List Char}
    {us : List String} (h : Yields d cs us) : Yields d (o :: (cs ++ [c])) us := by
  have hopening : ∀ ps ls, step d ⟨ps, ls, .code⟩ o = some ⟨c :: ps, ls, .code⟩ := by
    intro ps ls
    have hne : o ≠ d := by
      rintro rfl
      rcases hd with rfl | rfl
      · cases ho
      · cases ho
    simp [step, hne, ho]
  have hclosing : ∀ ps ls, step d ⟨c :: ps, ls, .code⟩ c = some ⟨ps, ls, .code⟩ := by
    intro ps ls
    unfold closing? at ho
    split at ho <;> cases ho <;> rcases hd with rfl | rfl <;> rfl
  intro ps ls
  rw [run_cons, hopening, Option.bind_some, run_append, h, Option.bind_some, run_cons, hclosing]
  rfl

theorem run_escaped {c : Char} (hc : c ≠ '\n') (ps : List Char) (ls : List String)
    (w : List Char) : run d ⟨ps, ls, .literal w⟩ ['\\', c] =
      some ⟨ps, ls, .literal (w ++ ['\\', c])⟩ := by
  have hne : '\\' ≠ d := by
    rintro rfl
    rcases hd with h | h
    · cases h
    · cases h
  simp [run_cons, run_nil, step, hne, hc]

omit hd in
theorem run_inside {c : Char} (hcd : c ≠ d) (hslash : c ≠ '\\') (hfeed : c ≠ '\n')
    (ps : List Char) (ls : List String) (w : List Char) :
    run d ⟨ps, ls, .literal w⟩ [c] = some ⟨ps, ls, .literal (w ++ [c])⟩ := by
  simp [run_cons, run_nil, step, hcd, hslash, hfeed]

/-! ## Shifted lines -/

theorem eq_of_step {c : Char} (hc : isPlain c = true) {r r' : CodeReader}
    (h : step d r c = some r') (hr' : r'.mode = .code) : r' = r := by
  obtain ⟨ps, ls, mode⟩ := r
  cases mode with
  | code =>
    rw [step_plain hd hc] at h
    exact (Option.some.inj h).symm
  | literal w =>
    simp only [step, if_neg (ne_of_isPlain hc hd.isPlain_eq_false)] at h
    split at h
    · cases h
    · split at h
      · cases h
        cases hr'
      · cases h
        cases hr'
  | escaped w =>
    -- behind an escape the reader is still inside the literal
    simp only [step] at h
    split at h
    · cases h
    · cases h
      cases hr'

theorem step_line_feed {r r' : CodeReader} (h : step d r '\n' = some r') :
    r.mode = .code ∧ r' = r := by
  obtain ⟨ps, ls, mode⟩ := r
  cases mode with
  | code =>
    rw [step_plain hd rfl] at h
    exact ⟨rfl, (Option.some.inj h).symm⟩
  | literal w => simp [step, ne_of_isPlain (c := '\n') rfl hd.isPlain_eq_false] at h
  | escaped w => simp [step] at h

theorem run_indentLine {r r' : CodeReader} {cs : List Char} (hr : r.mode = .code)
    (h : run d r cs = some r') (n : Nat) : run d r (Lines.indentLine n cs) = some r' := by
  obtain ⟨ps, ls, mode⟩ := r
  cases hr
  unfold Lines.indentLine
  by_cases hblank : cs.all isBlankChar = true
  · have hplain : ∀ c ∈ cs, isPlain c = true := fun c hc =>
      isPlain_of_isBlankChar (all_eq_true.mp hblank c hc)
    rw [if_pos hblank, ← h, run_plain hd hplain, run_nil]
  · have hspaces : ∀ c ∈ replicate n ' ', isPlain c = true := by
      intro c hc
      cases eq_of_mem_replicate hc
      rfl
    rw [if_neg hblank, run_append, run_plain hd hspaces, Option.bind_some, h]

theorem run_close {r r' : CodeReader} {read : List Char} (hr' : r'.mode = .code)
    (h : run d r read.reverse = some r') : run d r (Lines.close read) = some r' := by
  unfold Lines.close
  split
  · rename_i rest
    rw [reverse_cons, run_append] at h
    obtain ⟨r₁, hr₁, hstep⟩ := Option.bind_eq_some_iff.mp h
    rw [run_cons] at hstep
    obtain ⟨r₂, hr₂, hnil⟩ := Option.bind_eq_some_iff.mp hstep
    cases hnil
    -- the carriage return is read in code, where it does nothing
    rw [hr₁, eq_of_step hd rfl hr₂ hr']
  · exact h

theorem run_join_cons {r r₁ r' : CodeReader} {l : List Char} {ls : List (List Char)}
    (hl : run d r l = some r₁) (hr₁ : r₁.mode = .code) (hls : run d r₁ (Lines.join ls) = some r') :
    run d r (Lines.join (l :: ls)) = some r' := by
  cases ls with
  | nil =>
    cases hls
    exact hl
  | cons m ms =>
    obtain ⟨ps, us, mode⟩ := r₁
    cases hr₁
    rw [Lines.join, run_append, hl, Option.bind_some, run_cons, step_plain hd rfl,
      Option.bind_some, hls]
    simp

theorem run_splitFrom (n : Nat) : ∀ {cs read : List Char} {r r' : CodeReader}, r.mode = .code →
    r'.mode = .code → run d r (read.reverse ++ cs) = some r' →
      run d r (Lines.join ((Lines.splitFrom read cs).map (Lines.indentLine n))) = some r'
  | [], read, r, r', hr, _, h => by
    rw [append_nil] at h
    rw [Lines.splitFrom]
    by_cases hread : read.isEmpty = true
    · rw [isEmpty_iff.mp hread] at h
      rw [if_pos hread]
      exact h
    · rw [if_neg hread]
      exact run_indentLine hd hr h n
  | c :: cs, read, r, r', hr, hr', h => by
    rw [Lines.splitFrom]
    by_cases hfeed : c = '\n'
    · subst hfeed
      rw [run_append] at h
      obtain ⟨r₁, hread, hrest⟩ := Option.bind_eq_some_iff.mp h
      rw [run_cons] at hrest
      obtain ⟨r₂, hstep, hcs⟩ := Option.bind_eq_some_iff.mp hrest
      -- a line feed is only read in code, so each line starts and ends there
      obtain ⟨hr₁, rfl⟩ := step_line_feed hd hstep
      rw [if_pos rfl, map_cons]
      exact run_join_cons hd (run_indentLine hd hr (run_close hd hr₁ hread) n) hr₁
        (run_splitFrom n hr₁ hr' hcs)
    · rw [if_neg hfeed]
      apply run_splitFrom n hr hr'
      rwa [reverse_cons, append_assoc, singleton_append]

theorem Yields.indent {cs : List Char} {us : List String} (h : Yields d cs us) (n : Nat) :
    Yields d (Lines.indent n cs) us := fun ps ls => run_splitFrom hd n rfl rfl (h ps ls)

end

end CodeReader

theorem readLiterals_eq_some_iff {d : Char} {s : String} {ls : List String} :
    readLiterals d s = some ls ↔
      CodeReader.run d ⟨[], [], .code⟩ s.toList = some ⟨[], ls, .code⟩ := by
  unfold readLiterals
  split
  · rename_i ls' hrun
    rw [hrun]
    simp
  · rename_i hno
    constructor
    · nofun
    · intro h
      exact absurd h (hno ls)

/-- **Shifting lines changes no literal.** -/
theorem readLiterals_indentLines {d : Char} (hd : CodeReader.IsDelimiter d) {s : String}
    {ls : List String} (h : readLiterals d s = some ls) (n : Nat) :
    readLiterals d (indentLines s n) = some ls := by
  rw [readLiterals_eq_some_iff] at h ⊢
  rw [indentLines, String.toList_ofList]
  exact CodeReader.run_splitFrom hd n rfl rfl h

/-- The brackets of code match, and its literals are these, however far its lines are shifted. -/
structure ReadsAs (d : Char) (code : String) (ls : List String) : Prop where
  literals : readLiterals d code = some ls
  shifted : ∀ n, readLiterals d (indentLines code n) = some ls

theorem readsAs_of_run {d : Char} (hd : CodeReader.IsDelimiter d) {code : String} {ls : List String}
    (h : CodeReader.run d ⟨[], [], .code⟩ code.toList = some ⟨[], ls, .code⟩) :
    ReadsAs d code ls := by
  have hliterals := readLiterals_eq_some_iff.mpr h
  exact ⟨hliterals, readLiterals_indentLines hd hliterals⟩

example : readLiterals '"' "f(\"a\\\"\x7b\", [\"b\"])" = some ["a\\\"\x7b", "b"] := by decide

example : readLiterals '\'' "f('a)'" = none := by decide

/-! ## Expressions -/

namespace Literals

variable (l : Literals)

def inside (s : String) : String := String.ofList (s.toList.flatMap l.escape)

structure IsSound : Prop where
  isDelimiter : CodeReader.IsDelimiter l.delimiter
  run_escape : ∀ c ps ls w, CodeReader.run l.delimiter ⟨ps, ls, .literal w⟩ (l.escape c) =
    some ⟨ps, ls, .literal (w ++ l.escape c)⟩

variable {l}

theorem IsSound.run_escapes (hl : l.IsSound) (ps : List Char) (ls : List String) :
    ∀ (cs w : List Char), CodeReader.run l.delimiter ⟨ps, ls, .literal w⟩ (cs.flatMap l.escape) =
      some ⟨ps, ls, .literal (w ++ cs.flatMap l.escape)⟩
  | [], w => by rw [flatMap_nil, CodeReader.run_nil, append_nil]
  | c :: cs, w => by
    rw [flatMap_cons, CodeReader.run_append, hl.run_escape, Option.bind_some,
      hl.run_escapes ps ls cs, append_assoc]

theorem IsSound.yields_quote (hl : l.IsSound) (s : String) :
    CodeReader.Yields l.delimiter (l.quote s).toList [l.inside s] := by
  have hopening : ∀ ps ls, CodeReader.step l.delimiter ⟨ps, ls, .code⟩ l.delimiter =
      some ⟨ps, ls, .literal []⟩ := by
    intro ps ls
    simp [CodeReader.step]
  have hclosing : ∀ ps ls w, CodeReader.step l.delimiter ⟨ps, ls, .literal w⟩ l.delimiter =
      some ⟨ps, ls ++ [String.ofList w], .code⟩ := by
    intro ps ls w
    simp [CodeReader.step]
  intro ps ls
  rw [quote, String.toList_ofList, cons_append, CodeReader.run_cons, hopening, Option.bind_some,
    CodeReader.run_append, hl.run_escapes, Option.bind_some, CodeReader.run_cons, hclosing]
  rfl

end Literals

end Artboard
