import Artboard.Proofs.Unescaping
import Artboard.Proofs.ViewWords
import Artboard.Proofs.WidgetWords

/-!
# Line ends in literals

A line feed of a text is escaped in its literal and a carriage return is not. Changing the case of a
text leaves its carriage returns where they are, so that a literal has one exactly where its text
has one.
-/

open List

namespace Artboard

namespace Case

/-! ## Change of case -/

section
variable {runs : List (Nat × Nat × Nat × Int)} {strings : List (Nat × List Nat)}

def IsAbove (n : Nat) (runs : List (Nat × Nat × Nat × Int)) (strings : List (Nat × List Nat)) :
    Prop :=
  (∀ r ∈ runs, n < r.1 ∧ (n : Int) < r.1 + r.2.2.2) ∧
    ∀ p ∈ strings, n < p.1 ∧ ∀ k ∈ p.2, n < k

instance (n : Nat) : Decidable (IsAbove n runs strings) :=
  inferInstanceAs (Decidable (_ ∧ _))

theorem shift?_eq_some {n m : Nat} : ∀ {runs : List (Nat × Nat × Nat × Int)},
    shift? n runs = some m → ∃ r ∈ runs, r.1 ≤ n ∧ m = ((n : Int) + r.2.2.2).toNat
  | [], h => by simp [shift?] at h
  | (first, last, step, distance) :: rest, h => by
    rw [shift?] at h
    split at h
    · cases h
    · rename_i hfirst
      split at h
      · cases h
        exact ⟨_, mem_cons_self, Nat.le_of_not_lt hfirst, rfl⟩
      · obtain ⟨r, hr, hm⟩ := shift?_eq_some h
        exact ⟨r, mem_cons_of_mem _ hr, hm⟩

theorem ne_of_lt_toNat {d : Char} {k : Nat} (hd : d ≠ '\x00') (h : d.toNat < k) :
    d ≠ Char.ofNat k := by
  intro he
  by_cases hk : k.isValidChar
  · have hvalid : Char.ofNat k = Char.ofNatAux k hk := dif_pos hk
    rw [he, hvalid] at h
    exact absurd h (Nat.lt_irrefl k)
  · have hinvalid : Char.ofNat k = '\x00' := dif_neg hk
    exact hd (he.trans hinvalid)

theorem mem_mapChar_iff {c d : Char} (h : IsAbove d.toNat runs strings) (hd : d ≠ '\x00') :
    d ∈ mapChar runs strings c ↔ d = c := by
  unfold mapChar
  split
  · rename_i m hm
    obtain ⟨r, hr, hfirst, rfl⟩ := shift?_eq_some hm
    -- the tables map only what is above `d`, and only to what is above it
    have habove := h.1 r hr
    rw [mem_singleton]
    constructor
    · intro hmapped
      exact absurd hmapped (ne_of_lt_toNat hd (by omega))
    · rintro rfl
      omega
  · split
    · rename_i p hp
      have habove := h.2 p (mem_of_find?_eq_some hp)
      constructor
      · intro hmem
        obtain ⟨k, hk, hmapped⟩ := mem_map.1 hmem
        exact absurd hmapped.symm (ne_of_lt_toNat hd (habove.2 k hk))
      · rintro rfl
        have hsame := find?_some hp
        simp only [beq_iff_eq] at hsame
        omega
    · rw [mem_singleton]

end

theorem upper_isAbove : IsAbove ('\r').toNat CaseTable.upperRuns CaseTable.upperStrings := by
  decide +kernel

theorem lower_isAbove : IsAbove ('\r').toNat CaseTable.lowerRuns CaseTable.lowerStrings := by
  decide +kernel

theorem return_mem_upperChar {c : Char} : '\r' ∈ upperChar c ↔ '\r' = c :=
  mem_mapChar_iff upper_isAbove (by decide)

theorem return_mem_lowerChar {c : Char} : '\r' ∈ lowerChar c ↔ '\r' = c :=
  mem_mapChar_iff lower_isAbove (by decide)

theorem return_mem_upper (s : List Char) : '\r' ∈ upper s ↔ '\r' ∈ s := by
  rw [upper, mem_flatMap]
  simp only [return_mem_upperChar, exists_eq_right']

theorem return_mem_lowerFrom : ∀ (before s : List Char), '\r' ∈ lowerFrom before s ↔ '\r' ∈ s
  | _, [] => Iff.rfl
  | before, c :: rest => by
    rw [lowerFrom, mem_append, mem_cons, return_mem_lowerFrom (c :: before) rest]
    apply or_congr_left
    split
    · rename_i hsigma
      subst hsigma
      split <;> decide
    · exact return_mem_lowerChar

end Case

namespace TextCase

theorem return_mem_titleFrom : ∀ (atStart : Bool) (s : List Char),
    '\r' ∈ titleFrom atStart s ↔ '\r' ∈ s
  | _, [] => Iff.rfl
  | atStart, c :: rest => by
    rw [titleFrom, mem_append, mem_cons, return_mem_titleFrom (isBlankChar c) rest]
    apply or_congr_left
    split
    · exact Case.return_mem_upperChar
    · exact mem_singleton

theorem return_mem_apply (case : TextCase) (s : String) :
    '\r' ∈ (case.apply s).toList ↔ '\r' ∈ s.toList := by
  cases case with
  | upper => rw [apply, String.toList_ofList, Case.return_mem_upper]
  | lower => rw [apply, String.toList_ofList, Case.lower, Case.return_mem_lowerFrom]
  | title => rw [apply, String.toList_ofList, return_mem_titleFrom]
  | asTyped | smallCaps | smallCapsForced => rfl

end TextCase

/-! ## Texts as they were given -/

def TextRun.given (r : TextRun) : List String := [r.characters, r.font.family]

def TextContent.given (runs : List TextRun) (content : TextContent) : List String :=
  match runs with
  | [] => [content.characters]
  | rs => rs.flatMap TextRun.given

namespace Branch

mutual

/-- The texts that are said in the code of a branch, before any change of case. -/
def given (picture : List String) (c : Context) : Branch Float → List String
  | .node site children =>
    match site.element.kind with
    | .container _ | .group => givenOfAll picture c children
    | .text content => content.given (site.element.textRuns c)
    | .boolean => picture
    | _ => []

def givenOfAll (picture : List String) (c : Context) : List (Branch Float) → List String
  | [] => []
  | b :: rest => given picture c b ++ givenOfAll picture c rest

end

def SameReturns (s t : String) : Prop := '\r' ∈ t.toList ↔ '\r' ∈ s.toList

theorem sameReturns_run (r : TextRun) : Forall₂ SameReturns r.given r.spoken :=
  .cons (r.case.return_mem_apply r.characters) (.cons Iff.rfl .nil)

theorem sameReturns_runs : ∀ rs : List TextRun,
    Forall₂ SameReturns (rs.flatMap TextRun.given) (rs.flatMap TextRun.spoken)
  | [] => .nil
  | r :: rs => rel_append (sameReturns_run r) (sameReturns_runs rs)

theorem sameReturns_text (runs : List TextRun) (content : TextContent) :
    Forall₂ SameReturns (content.given runs) (content.spoken runs) := by
  cases runs with
  | nil => exact .cons Iff.rfl .nil
  | cons r rs => exact sameReturns_runs (r :: rs)

section
variable (picture : List String) (c : Context)

mutual

theorem sameReturns_spoken : ∀ b : Branch Float,
    Forall₂ SameReturns (b.given picture c) (b.spoken picture c)
  | .node site children => by
    unfold given spoken
    cases site.element.kind with
    | container _ | group => exact sameReturns_spokenOfAll children
    | text content => exact sameReturns_text _ content
    | boolean => exact forall₂_same.2 fun _ _ => Iff.rfl
    | _ => exact .nil

theorem sameReturns_spokenOfAll : ∀ bs : List (Branch Float),
    Forall₂ SameReturns (givenOfAll picture c bs) (spokenOfAll picture c bs)
  | [] => .nil
  | b :: bs => rel_append (sameReturns_spoken b) (sameReturns_spokenOfAll bs)

end

end

end Branch

/-! ## Literals -/

namespace Escape

variable {escape : Char → List Char} (k : Marking escape)
include k

theorem return_mem_flatMap (s : List Char) :
    '\r' ∈ s.flatMap escape ↔ '\r' ∈ s := by
  have hchar : ∀ c, '\r' ∈ escape c ↔ '\r' = c := by
    intro c
    have hw := k.writes c
    generalize escape c = w at hw
    cases hw with
    | plain _ => exact mem_singleton
    | mark _ => simp
    | feed | tab => decide
  rw [mem_flatMap]
  simp only [hchar, exists_eq_right']

end Escape

/-- How the lines of a literal end, if it is what is written for this text. -/
structure EndsAlike (text literal : String) : Prop where
  feed : '\n' ∉ literal.toList
  return_iff : '\r' ∈ literal.toList ↔ '\r' ∈ text.toList

section
variable {escape : Char → List Char} (k : Escape.Marking escape)
include k

theorem endsAlike_escape {s t : String} (h : Branch.SameReturns s t) :
    EndsAlike s (String.ofList (t.toList.flatMap escape)) where
  feed := by
    rw [String.toList_ofList]
    exact (Escape.isSafeLiteral_flatMap k t.toList).feed
  return_iff := by
    rw [String.toList_ofList, Escape.return_mem_flatMap k]
    exact h

theorem endsAlike_map {ss ts : List String} (h : Forall₂ Branch.SameReturns ss ts) :
    Forall₂ EndsAlike ss (ts.map fun t => String.ofList (t.toList.flatMap escape)) :=
  forall₂_map_right_iff.2 (h.imp fun _ _ hst => endsAlike_escape k hst)

end

/-- **A literal has no line feed, and a carriage return only from the text it is written for.** So
all of them stay on their lines exactly if no text has a carriage return. -/
theorem normalize_endsAlike (o : NormalizeOptions Float) (c : Context)
    (selection : List (HostNode Float)) {a : Arena Float}
    (h : (normalizeInto o c selection).1 = .ok a) (d : Context) :
    ∃ bs, a.branches = .ok bs ∧
      (∃ ls, ReadsAs '"' (Framework.code d bs .swiftUi) ls ∧
        Forall₂ EndsAlike (Branch.givenOfAll ["photo"] d bs) ls) ∧
      ∃ ls, ReadsAs '\'' (Framework.code d bs .flutter) ls ∧
        Forall₂ EndsAlike (Branch.givenOfAll [] d bs) ls := by
  obtain ⟨_, rfl⟩ := normalizeSources_eq_ok_iff.mp h
  have hholds := Arena.restructure_holds o (HostNode.toSources selection)
  refine ⟨_, hholds.branches_eq, ⟨_, SwiftUi.readsAs_body d _, ?_⟩, _, Flutter.readsAs_body d _, ?_⟩
  · exact endsAlike_map Escape.doubleMarking (Branch.sameReturns_spokenOfAll _ d _)
  · exact endsAlike_map Escape.singleMarking (Branch.sameReturns_spokenOfAll _ d _)

def torn : List (HostNode Float) :=
  [.node { HostProps.plain "1" "torn" .text ⟨0, 0, 40, 20, 0⟩ with
    characters := some "a\rb" } []]

theorem torn_endsAlike : ∃ (a : Arena Float) (bs : List (Branch Float)),
    (normalizeInto default .empty torn).1 = .ok a ∧ a.branches = .ok bs ∧
      (∃ ls, readLiterals '"' (Framework.code .empty bs .swiftUi) = some ls ∧
        ∃ l ∈ ls, '\r' ∈ l.toList) ∧
      ∃ ls, readLiterals '\'' (Framework.code .empty bs .flutter) = some ls ∧
        ∃ l ∈ ls, '\r' ∈ l.toList := by
  have hholds := Arena.restructure_holds default (HostNode.toSources torn)
  obtain ⟨bs, hbs, ⟨ls, hls, hview⟩, ks, hks, hwidget⟩ :=
    normalize_endsAlike default .empty torn rfl .empty
  cases hbs.symm.trans hholds.branches_eq
  have hfirst : ∀ {ts ls : List String}, Forall₂ EndsAlike ("a\rb" :: ts) ls →
      ∃ l ∈ ls, '\r' ∈ l.toList := by
    intro ts ls hends
    cases hends with
    | cons hl _ => exact ⟨_, mem_cons_self, hl.return_iff.2 (by decide)⟩
  exact ⟨_, _, rfl, hbs, ⟨ls, hls.literals, hfirst hview⟩, ks, hks.literals, hfirst hwidget⟩

end Artboard
