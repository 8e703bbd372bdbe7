import Artboard.Text.Lines
import Mathlib.Data.List.Basic

/-!
# Indentation

Lines that are joined are cut again where they were joined, unless one of them ends in a carriage
return or the last is empty. Indentation empties blank lines and leaves the ends of all others as
they are, so that lines can be shifted again, and that is to shift them once by both distances.
-/

open List

namespace Artboard

namespace Lines

/-! ## Cutting -/

theorem exists_splitFrom_append : ∀ read cs : List Char, ∃ ls last, ∀ rest,
    splitFrom read (cs ++ rest) = ls ++ splitFrom last rest
  | read, [] => ⟨[], read, fun _ => rfl⟩
  | read, c :: cs => by
    by_cases hfeed : c = '\n'
    · obtain ⟨ls, last, h⟩ := exists_splitFrom_append [] cs
      exact ⟨close read :: ls, last, fun rest => by simp [splitFrom, hfeed, h]⟩
    · obtain ⟨ls, last, h⟩ := exists_splitFrom_append (c :: read) cs
      exact ⟨ls, last, fun rest => by simp [splitFrom, hfeed, h]⟩

theorem splitFrom_append {l : List Char} (h : '\n' ∉ l) (read rest : List Char) :
    splitFrom read (l ++ rest) = splitFrom (l.reverse ++ read) rest := by
  induction l generalizing read with
  | nil => rfl
  | cons c l ih =>
    rw [mem_cons, not_or] at h
    rw [cons_append, splitFrom, if_neg (Ne.symm h.1), ih h.2, reverse_cons, append_assoc]
    rfl

theorem split_append_feed (s t : List Char) :
    split (s ++ '\n' :: t) = split (s ++ ['\n']) ++ split t := by
  obtain ⟨ls, last, h⟩ := exists_splitFrom_append [] s
  simp [split, h, splitFrom]

theorem splitFrom_eq_nil_iff : ∀ {read cs : List Char}, splitFrom read cs = [] ↔ read = [] ∧ cs = []
  | read, [] => by simp [splitFrom]
  | read, c :: cs => by
    rw [splitFrom]
    split
    · simp
    · rw [splitFrom_eq_nil_iff]
      simp

theorem feed_notMem_close {read : List Char} (h : '\n' ∉ read) : '\n' ∉ close read := by
  unfold close
  split
  · simp_all
  · simpa using h

theorem feed_notMem_splitFrom : ∀ {read : List Char} (cs : List Char), '\n' ∉ read →
    ∀ l ∈ splitFrom read cs, '\n' ∉ l
  | read, [], h, l, hl => by
    by_cases hread : read.isEmpty = true
    · simp [splitFrom, hread] at hl
    · simp only [splitFrom, if_neg hread, mem_singleton] at hl
      simpa [hl] using h
  | read, c :: cs, h, l, hl => by
    by_cases hfeed : c = '\n'
    · rw [splitFrom, if_pos hfeed, mem_cons] at hl
      rcases hl with rfl | hl
      · exact feed_notMem_close h
      · exact feed_notMem_splitFrom cs not_mem_nil l hl
    · rw [splitFrom, if_neg hfeed] at hl
      exact feed_notMem_splitFrom cs (by simp [Ne.symm hfeed, h]) l hl

theorem join_cons_cons (l m : List Char) (ls : List (List Char)) :
    join (l :: m :: ls) = l ++ '\n' :: join (m :: ls) := rfl

theorem join_append : ∀ {ls ms : List (List Char)}, ls ≠ [] → ms ≠ [] →
    join (ls ++ ms) = join ls ++ '\n' :: join ms
  | [], _, hls, _ => absurd rfl hls
  | [_], [], _, hms => absurd rfl hms
  | [_], _ :: _, _, _ => rfl
  | l :: m :: ls, ms, _, hms => by
    have ih := join_append (cons_ne_nil m ls) hms
    rw [cons_append] at ih
    rw [cons_append, cons_append, join_cons_cons, join_cons_cons, ih, append_assoc, cons_append]

/-! ## Carriage returns -/

/-- Every carriage return has something behind it, and that is no line feed. So none is taken along
by a line feed, be it in the text or behind it. -/
def IsSettled : List Char → Prop
  | [] => True
  | c :: rest => (c = '\r' → ∃ d ∈ rest.head?, d ≠ '\n') ∧ IsSettled rest

theorem isSettled_of_notMem : ∀ {s : List Char}, '\r' ∉ s → IsSettled s
  | [], _ => trivial
  | c :: s, h => by
    rw [mem_cons, not_or] at h
    exact ⟨fun hc => absurd hc.symm h.1, isSettled_of_notMem h.2⟩

theorem isSettled_snoc_of_notMem {s : List Char} (h : '\n' ∉ s) {c : Char} (hreturn : c ≠ '\r')
    (hfeed : c ≠ '\n') : IsSettled (s ++ [c]) := by
  induction s with
  | nil => exact ⟨fun hc => absurd hc hreturn, trivial⟩
  | cons d s ih =>
    rw [mem_cons, not_or] at h
    refine ⟨fun _ => ?_, ih h.2⟩
    cases s with
    | nil => exact ⟨c, rfl, hfeed⟩
    | cons e s => exact ⟨e, rfl, fun he => h.2 (by simp [he])⟩

theorem IsSettled.append {s t : List Char} (hs : IsSettled s) (ht : IsSettled t) :
    IsSettled (s ++ t) := by
  induction s with
  | nil => exact ht
  | cons c s ih =>
    refine ⟨fun hc => ?_, ih hs.2⟩
    obtain ⟨d, hd, hne⟩ := hs.1 hc
    exact ⟨d, by cases s <;> simp_all, hne⟩

theorem isSettled_append_feed_iff {s t : List Char} :
    IsSettled (s ++ '\n' :: t) ↔ IsSettled s ∧ IsSettled t := by
  induction s with
  | nil => simp [IsSettled]
  | cons c s ih =>
    rw [cons_append, IsSettled, IsSettled, ih, and_assoc]
    apply and_congr_left'
    cases s <;> simp

theorem close_of_isSettled {read : List Char} (h : IsSettled read.reverse) :
    close read = read.reverse := by
  unfold close
  split
  · rename_i rest
    have hreturn : ∀ s : List Char, ¬IsSettled (s ++ ['\r']) := by
      intro s
      induction s with
      | nil => simp [IsSettled]
      | cons c s ih => exact fun hs => ih hs.2
    rw [reverse_cons] at h
    exact absurd h (hreturn _)
  · rfl

theorem isSettled_of_mem_splitFrom : ∀ {read cs : List Char}, IsSettled (read.reverse ++ cs) →
    ∀ l ∈ splitFrom read cs, IsSettled l
  | read, [], h, l, hl => by
    by_cases hread : read.isEmpty = true
    · simp [splitFrom, hread] at hl
    · simp only [splitFrom, if_neg hread, mem_singleton] at hl
      simpa [hl] using h
  | read, c :: cs, h, l, hl => by
    by_cases hfeed : c = '\n'
    · subst hfeed
      obtain ⟨hread, hcs⟩ := isSettled_append_feed_iff.mp h
      rw [splitFrom, if_pos rfl, close_of_isSettled hread, mem_cons] at hl
      rcases hl with rfl | hl
      · exact hread
      · exact @isSettled_of_mem_splitFrom [] cs hcs l hl
    · rw [splitFrom, if_neg hfeed] at hl
      refine @isSettled_of_mem_splitFrom (c :: read) cs ?_ l hl
      simpa using h

theorem isSettled_of_mem_split {s l : List Char} (h : IsSettled s) (hl : l ∈ split s) :
    IsSettled l :=
  @isSettled_of_mem_splitFrom [] s h l hl

theorem isSettled_join : ∀ {ls : List (List Char)}, (∀ l ∈ ls, IsSettled l) → IsSettled (join ls)
  | [], _ => trivial
  | [l], h => h l mem_cons_self
  | l :: m :: ls, h => by
    rw [forall_mem_cons] at h
    exact isSettled_append_feed_iff.mpr ⟨h.1, isSettled_join h.2⟩

/-! ## Shifted lines -/

section
variable {n : Nat} {l : List Char}

theorem indentLine_of_isBlank (h : l.all isBlankChar = true) : indentLine n l = [] := if_pos h

theorem indentLine_of_not_isBlank (h : l.all isBlankChar = false) :
    indentLine n l = replicate n ' ' ++ l := by
  simp [indentLine, h]

theorem all_indentLine (n : Nat) (l : List Char) :
    (indentLine n l).all isBlankChar = l.all isBlankChar := by
  cases h : l.all isBlankChar with
  | true => rw [indentLine_of_isBlank h, all_nil]
  | false => rw [indentLine_of_not_isBlank h, all_append, h, Bool.and_false]

theorem indentLine_indentLine (a b : Nat) (l : List Char) :
    indentLine b (indentLine a l) = indentLine (a + b) l := by
  cases h : l.all isBlankChar with
  | true => rw [indentLine_of_isBlank h, indentLine_of_isBlank h, indentLine_of_isBlank rfl]
  | false =>
    have hshifted := all_indentLine a l
    rw [h] at hshifted
    rw [indentLine_of_not_isBlank hshifted, indentLine_of_not_isBlank h,
      indentLine_of_not_isBlank h, ← append_assoc, replicate_append_replicate, Nat.add_comm]

theorem feed_notMem_indentLine (h : '\n' ∉ l) : '\n' ∉ indentLine n l := by
  unfold indentLine
  split
  · exact not_mem_nil
  · simp [h]

theorem isSettled_indentLine (h : IsSettled l) : IsSettled (indentLine n l) := by
  unfold indentLine
  split
  · trivial
  · exact (isSettled_of_notMem (by simp)).append h

end

/-- Lines that are cut again where they are joined, and still are when blank lines are empty. -/
structure AreSteady (ls : List (List Char)) : Prop where
  feed : ∀ l ∈ ls, '\n' ∉ l
  settled : ∀ l ∈ ls, IsSettled l
  last : ∀ l ∈ ls.getLast?, l.all isBlankChar = false

theorem AreSteady.tail {l m : List Char} {ls : List (List Char)} (h : AreSteady (l :: m :: ls)) :
    AreSteady (m :: ls) where
  feed k hk := h.feed k (mem_cons_of_mem _ hk)
  settled k hk := h.settled k (mem_cons_of_mem _ hk)
  last k hk := h.last k (by simpa using hk)

theorem split_join : ∀ {ls : List (List Char)}, AreSteady ls → split (join ls) = ls
  | [], _ => rfl
  | [l], h => by
    have hsplit := splitFrom_append (h.feed l mem_cons_self) [] []
    have hne : l ≠ [] := by
      rintro rfl
      cases h.last [] rfl
    rw [append_nil, append_nil] at hsplit
    rw [join, split, hsplit]
    simp [splitFrom, hne]
  | l :: m :: ls, h => by
    have hclose := @close_of_isSettled l.reverse (by simpa using h.settled l mem_cons_self)
    have ih := split_join h.tail
    rw [reverse_reverse] at hclose
    rw [split] at ih ⊢
    rw [join_cons_cons, splitFrom_append (h.feed l mem_cons_self), append_nil, splitFrom, if_pos rfl,
      hclose, ih]

theorem AreSteady.indent {ls : List (List Char)} (h : AreSteady ls) (n : Nat) :
    AreSteady (ls.map (indentLine n)) where
  feed := forall_mem_map.mpr fun l hl => feed_notMem_indentLine (h.feed l hl)
  settled := forall_mem_map.mpr fun l hl => isSettled_indentLine (h.settled l hl)
  last k hk := by
    rw [getLast?_map] at hk
    obtain ⟨l, hl, rfl⟩ := Option.map_eq_some_iff.mp hk
    rw [all_indentLine]
    exact h.last l hl

/-- **Lines that are shifted twice are shifted once by both distances.** -/
theorem indent_indent {s : List Char} (h : AreSteady (split s)) (a b : Nat) :
    indent b (indent a s) = indent (a + b) s := by
  unfold indent
  rw [split_join (h.indent a), map_map]
  congr 2
  funext l
  exact indentLine_indentLine a b l

example : indent 0 (indent 0 "a\n\n".toList) ≠ indent 0 "a\n\n".toList := by decide

example : indent 0 (indent 0 "a\r\r\nb".toList) ≠ indent 0 "a\r\r\nb".toList := by decide

theorem areSteady_of_return_notMem {s : List Char} (hreturn : '\r' ∉ s)
    (hlast : ∀ l ∈ (split s).getLast?, l.all isBlankChar = false) : AreSteady (split s) where
  feed := feed_notMem_splitFrom s not_mem_nil
  settled _ hl := isSettled_of_mem_split (isSettled_of_notMem hreturn) hl
  last := hlast

/-! ## Text that ends in sight -/

/-- A settled text of which the last character is to be seen. -/
structure IsNeat (s : List Char) : Prop where
  settled : IsSettled s
  visible : ∃ t c, s = t ++ [c] ∧ isBlankChar c = false

theorem isNeat_snoc {s : List Char} (h : IsSettled s) {c : Char} (hc : isBlankChar c = false) :
    IsNeat (s ++ [c]) where
  settled := by
    refine h.append (isSettled_of_notMem ?_)
    rw [mem_singleton]
    rintro rfl
    cases hc
  visible := ⟨s, c, rfl, hc⟩

theorem IsNeat.prepend {s t : List Char} (hs : IsSettled s) (ht : IsNeat t) : IsNeat (s ++ t) where
  settled := hs.append ht.settled
  visible := by
    obtain ⟨u, c, rfl, hc⟩ := ht.visible
    exact ⟨s ++ u, c, (append_assoc s u [c]).symm, hc⟩

theorem IsNeat.exists_lines {s : List Char} (h : IsNeat s) : ∃ ls l, l.all isBlankChar = false ∧
    split s = ls ++ [l] ∧ split (s ++ ['\n']) = ls ++ [l] ∧
      ∀ c, c ≠ '\n' → split (s ++ [c]) = ls ++ [l ++ [c]] := by
  obtain ⟨t, c, rfl, hc⟩ := h.visible
  obtain ⟨ls, last, hsplit⟩ := exists_splitFrom_append [] t
  -- the last character is visible, so it belongs to the last line
  have hfeed : c ≠ '\n' := by
    rintro rfl
    cases hc
  have hreturn : c ≠ '\r' := by
    rintro rfl
    cases hc
  have hclose : close (c :: last) = last.reverse ++ [c] := by
    unfold close
    split
    · rename_i heq
      exact absurd (cons.inj heq).1 hreturn
    · rw [reverse_cons]
  refine ⟨ls, last.reverse ++ [c], by simp [hc], ?_, ?_, fun d hd => ?_⟩
  · simp [split, hsplit, splitFrom, hfeed]
  · simp [split, hsplit, splitFrom, hfeed, hclose]
  · simp [split, hsplit, splitFrom, hfeed, hd]

theorem IsNeat.areSteady {s : List Char} (h : IsNeat s) : AreSteady (split s) where
  feed := feed_notMem_splitFrom s not_mem_nil
  settled _ hl := isSettled_of_mem_split h.settled hl
  last l hl := by
    obtain ⟨ls, last, hlast, hsplit, _⟩ := h.exists_lines
    rw [hsplit, getLast?_append, getLast?_singleton] at hl
    cases hl
    exact hlast

theorem isSettled_indent {s : List Char} (h : IsSettled s) (n : Nat) : IsSettled (indent n s) :=
  isSettled_join (forall_mem_map.mpr fun _ hl => isSettled_indentLine (isSettled_of_mem_split h hl))

theorem indent_snoc {s : List Char} (h : IsNeat s) {c : Char} (hc : isBlankChar c = false)
    (n : Nat) : indent n (s ++ [c]) = indent n s ++ [c] := by
  obtain ⟨ls, l, hl, hsplit, _, hsnoc⟩ := h.exists_lines
  have hfeed : c ≠ '\n' := by
    rintro rfl
    cases hc
  have hline : indentLine n (l ++ [c]) = indentLine n l ++ [c] := by
    rw [indentLine_of_not_isBlank hl, indentLine_of_not_isBlank (by simp [hc]), append_assoc]
  have hjoin : ∀ (ks : List (List Char)) k, join (ks ++ [k ++ [c]]) = join (ks ++ [k]) ++ [c] := by
    intro ks k
    cases ks with
    | nil => rfl
    | cons m ks =>
      rw [join_append (by simp) (by simp), join_append (by simp) (by simp)]
      simp [join]
  rw [indent, indent, hsplit, hsnoc c hfeed, map_append, map_append, map_singleton, map_singleton,
    hline, hjoin]

theorem indent_feed {s : List Char} (h : IsNeat s) (n : Nat) :
    indent n (s ++ ['\n']) = indent n s := by
  obtain ⟨ls, l, _, hsplit, hfeed, _⟩ := h.exists_lines
  rw [indent, indent, hsplit, hfeed]

theorem indent_append_feed (n : Nat) (s : List Char) {t : List Char} (ht : t ≠ []) :
    indent n (s ++ '\n' :: t) = indent n (s ++ ['\n']) ++ '\n' :: indent n t := by
  have hsplit : ∀ {u : List Char}, u ≠ [] → (split u).map (indentLine n) ≠ [] := by
    intro u hu hnil
    exact hu (splitFrom_eq_nil_iff.mp (map_eq_nil_iff.mp hnil)).2
  rw [indent, split_append_feed, map_append, join_append (hsplit (by simp)) (hsplit ht), indent,
    indent]

/-- **A text that was shifted within another one is shifted along with it,** as if it had been
shifted once. -/
theorem indent_between {m : List Char} (hm : IsNeat m) (a b : Nat) (s : List Char) {t : List Char}
    (ht : t ≠ []) : indent b (s ++ '\n' :: (indent a m ++ ',' :: '\n' :: t)) =
      indent b (s ++ ['\n']) ++ '\n' :: (indent (a + b) m ++ ',' :: '\n' :: indent b t) := by
  have hcomma : ∀ n, indent n m ++ [','] = indent n (m ++ [',']) := fun n =>
    (indent_snoc hm rfl n).symm
  have hneat : IsNeat (indent a m ++ [',']) := isNeat_snoc (isSettled_indent hm.settled a) rfl
  have hsteady : AreSteady (split (m ++ [','])) := (isNeat_snoc hm.settled rfl).areSteady
  -- the comma belongs to the last line of the text, and a line feed behind it changes nothing
  have hmiddle : indent b (indent a m ++ ',' :: '\n' :: t) =
      indent (a + b) m ++ ',' :: '\n' :: indent b t := by
    calc indent b (indent a m ++ ',' :: '\n' :: t)
        = indent b ((indent a m ++ [',']) ++ '\n' :: t) := by simp
      _ = indent b ((indent a m ++ [',']) ++ ['\n']) ++ '\n' :: indent b t :=
        indent_append_feed b _ ht
      _ = indent b (indent a (m ++ [','])) ++ '\n' :: indent b t := by
        rw [indent_feed hneat, hcomma a]
      _ = indent (a + b) (m ++ [',']) ++ '\n' :: indent b t := by rw [indent_indent hsteady]
      _ = indent (a + b) m ++ ',' :: '\n' :: indent b t := by rw [← hcomma (a + b)]; simp
  rw [indent_append_feed b s (by simp), hmiddle]

theorem indent_feed_cons (n : Nat) {t : List Char} (ht : t ≠ []) :
    indent n ('\n' :: t) = '\n' :: indent n t :=
  indent_append_feed n [] ht

theorem exists_hang_append_feed (n : Nat) (s : List Char) {t : List Char} (ht : t ≠ []) :
    ∃ first rest, hang n (s ++ '\n' :: t) = first ++ indent n (rest ++ '\n' :: t) := by
  have hdrop : (s ++ '\n' :: t).dropWhile (· != '\n') =
      s.dropWhile (· != '\n') ++ '\n' :: t := by
    rw [dropWhile_append]
    cases hs : s.dropWhile (· != '\n') <;> simp
  unfold hang
  rw [hdrop]
  cases s.dropWhile (· != '\n') with
  | nil => exact ⟨_, [], congrArg (_ ++ ·) (indent_feed_cons n ht).symm⟩
  | cons c rest => exact ⟨_, '\n' :: rest, congrArg (_ ++ ·) (indent_feed_cons n (by simp)).symm⟩

end Lines

end Artboard
