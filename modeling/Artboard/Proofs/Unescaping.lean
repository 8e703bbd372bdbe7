import Artboard.Code.Escape
import Mathlib.Data.List.Basic
import Mathlib.Data.List.Induction

/-!
# Reading escaped texts back

Readers that undo the escapes of markup and of string literals, and refuse what must not stand there
unescaped. They read back every text, whatever escapes it holds itself. A delimiter inside a literal
has an odd number of backslashes before it, so that none of them is itself escaped.
-/

open List

namespace Artboard

theorem exists_of_flatMap_eq_append_cons {β γ : Type} {f : β → List γ} {y : γ} {v : List γ} :
    ∀ {xs : List β} {u : List γ}, xs.flatMap f = u ++ y :: v →
      ∃ before x after w w', xs = before ++ x :: after ∧ f x = w ++ y :: w' ∧
        u = before.flatMap f ++ w ∧ v = w' ++ after.flatMap f
  | [], u, h => by
    rw [flatMap_nil] at h
    exact absurd h.symm (by simp)
  | x :: xs, u, h => by
    rw [flatMap_cons, append_eq_append_iff] at h
    have hlater : ∀ {u' : List γ}, u = f x ++ u' → xs.flatMap f = u' ++ y :: v →
        ∃ before x' after w w', x :: xs = before ++ x' :: after ∧ f x' = w ++ y :: w' ∧
          u = before.flatMap f ++ w ∧ v = w' ++ after.flatMap f := by
      intro u' hu hxs
      obtain ⟨before, x', after, w, w', rfl, hx', rfl, hv⟩ := exists_of_flatMap_eq_append_cons hxs
      refine ⟨x :: before, x', after, w, w', rfl, hx', ?_, hv⟩
      rw [hu, flatMap_cons, append_assoc]
    rcases h with ⟨u', hu, hxs⟩ | ⟨w', hx, hv⟩
    · exact hlater hu hxs
    · cases w' with
      | nil =>
        -- all that is written for the first member comes before the character
        have hend : u = f x ++ [] := by rw [hx, append_nil, append_nil]
        exact hlater hend hv.symm
      | cons z w' =>
        cases hv
        exact ⟨[], x, xs, u, w', rfl, hx, rfl, rfl⟩

namespace Escape

def Parts (escape : Char → List Char) (s : List Char) (c : Char) (u v : List Char) : Prop :=
  ∃ before after, s = before ++ c :: after ∧ u = before.flatMap escape ∧ v = after.flatMap escape

/-! ## Markup -/

section Markup

def special : List Char := ['&', '<', '>', '"', '\'']

/-- Reads entities and line breaks. Other special characters are refused. -/
def readMarkup : List Char → Option (List Char)
  | [] => some []
  | '&' :: 'a' :: 'm' :: 'p' :: ';' :: rest => (readMarkup rest).map ('&' :: ·)
  | '&' :: 'l' :: 't' :: ';' :: rest => (readMarkup rest).map ('<' :: ·)
  | '&' :: 'g' :: 't' :: ';' :: rest => (readMarkup rest).map ('>' :: ·)
  | '&' :: 'q' :: 'u' :: 'o' :: 't' :: ';' :: rest => (readMarkup rest).map ('"' :: ·)
  | '&' :: '#' :: '3' :: '9' :: ';' :: rest => (readMarkup rest).map ('\'' :: ·)
  | '<' :: 'b' :: 'r' :: '>' :: rest => (readMarkup rest).map ('\n' :: ·)
  | c :: rest => if c ∈ special then none else (readMarkup rest).map (c :: ·)

inductive MarkupWrites : Char → List Char → Prop
  | plain {c : Char} (h : c ∉ '\n' :: special) : MarkupWrites c [c]
  | lineBreak : MarkupWrites '\n' ['<', 'b', 'r', '>']
  | entity {c : Char} (name : List Char) (h : c ∈ special) (hname : ∀ x ∈ name, x ∉ special) :
      MarkupWrites c ('&' :: name)

theorem writes_markupChar (c : Char) : MarkupWrites c (markupChar c) := by
  unfold markupChar
  split
  · exact .entity ['a', 'm', 'p', ';'] (by decide) (by simp [special])
  · exact .entity ['l', 't', ';'] (by decide) (by simp [special])
  · exact .entity ['g', 't', ';'] (by decide) (by simp [special])
  · exact .entity ['q', 'u', 'o', 't', ';'] (by decide) (by simp [special])
  · exact .entity ['#', '3', '9', ';'] (by decide) (by simp [special])
  · exact .lineBreak
  · rename_i hamp hless hgreater hdouble hsingle hfeed
    apply MarkupWrites.plain
    simp only [special, mem_cons, not_mem_nil, or_false, not_or]
    exact ⟨hfeed, hamp, hless, hgreater, hdouble, hsingle⟩

theorem readMarkup_markupChar (c : Char) (rest : List Char) :
    readMarkup (markupChar c ++ rest) = (readMarkup rest).map (c :: ·) := by
  unfold markupChar
  split
  · rfl
  · rfl
  · rfl
  · rfl
  · rfl
  · rfl
  · rename_i hamp hless hgreater hdouble hsingle hfeed
    have hplain : c ∉ special := by
      simp only [special, mem_cons, not_mem_nil, or_false, not_or]
      exact ⟨hamp, hless, hgreater, hdouble, hsingle⟩
    rw [singleton_append, readMarkup, if_neg hplain]
    -- an entity starts with an ampersand, a line break with a less-than sign
    · exact fun _ h _ => hamp h
    · exact fun _ h _ => hamp h
    · exact fun _ h _ => hamp h
    · exact fun _ h _ => hamp h
    · exact fun _ h _ => hamp h
    · exact fun _ h _ => hless h

theorem readMarkup_flatMap (s : List Char) : readMarkup (s.flatMap markupChar) = some s := by
  induction s with
  | nil => rfl
  | cons c s ih => rw [flatMap_cons, readMarkup_markupChar, ih, Option.map_some]

section
variable {c x : Char} {l w w' : List Char}

theorem MarkupWrites.of_special (h : MarkupWrites c l) (hx : x ∈ special) (hl : x ∈ l) :
    (c = '\n' ∧ l = ['<', 'b', 'r', '>'] ∧ (x = '<' ∨ x = '>')) ∨
      c ∈ special ∧ x = '&' ∧ ∃ name, l = '&' :: name ∧ '&' ∉ name := by
  cases h with
  | plain hc =>
    cases mem_singleton.1 hl
    exact absurd (mem_cons_of_mem _ hx) hc
  | lineBreak =>
    left
    refine ⟨rfl, rfl, ?_⟩
    simp only [mem_cons, not_mem_nil, or_false] at hl
    rcases hl with rfl | rfl | rfl | rfl
    · exact .inl rfl
    · exact absurd hx (by decide)
    · exact absurd hx (by decide)
    · exact .inr rfl
  | entity name hc hname =>
    right
    rcases mem_cons.1 hl with rfl | hl
    · exact ⟨hc, rfl, name, rfl, fun hamp => hname _ hamp (by decide)⟩
    · exact absurd hx (hname x hl)

theorem quote_notMem (h : MarkupWrites c l) : '"' ∉ l ∧ '\'' ∉ l := by
  constructor
  · intro hl
    rcases h.of_special (by decide) hl with ⟨_, _, hx | hx⟩ | ⟨_, hx, _⟩ <;> cases hx
  · intro hl
    rcases h.of_special (by decide) hl with ⟨_, _, hx | hx⟩ | ⟨_, hx, _⟩ <;> cases hx

theorem eq_of_less (h : MarkupWrites c (w ++ '<' :: w')) :
    c = '\n' ∧ w = [] ∧ w' = ['b', 'r', '>'] := by
  rcases h.of_special (by decide) mem_append_cons_self with ⟨hc, hl, _⟩ | ⟨_, hx, _⟩
  · have hparts : w ++ '<' :: w' = [] ++ '<' :: ['b', 'r', '>'] := hl
    obtain ⟨hw, _, hw'⟩ := (append_cons_inj_of_notMem (by decide) (by decide)).1 hparts.symm
    exact ⟨hc, hw.symm, hw'.symm⟩
  · cases hx

theorem eq_of_greater (h : MarkupWrites c (w ++ '>' :: w')) :
    c = '\n' ∧ w = ['<', 'b', 'r'] ∧ w' = [] := by
  rcases h.of_special (by decide) mem_append_cons_self with ⟨hc, hl, _⟩ | ⟨_, hx, _⟩
  · have hparts : w ++ '>' :: w' = ['<', 'b', 'r'] ++ '>' :: [] := hl
    obtain ⟨hw, _, hw'⟩ := (append_cons_inj_of_notMem (by decide) (by decide)).1 hparts.symm
    exact ⟨hc, hw.symm, hw'.symm⟩
  · cases hx

theorem eq_of_ampersand (h : MarkupWrites c (w ++ '&' :: w')) : c ∈ special ∧ w = [] := by
  rcases h.of_special (by decide) mem_append_cons_self with ⟨_, _, hx | hx⟩ | ⟨hc, _, name, hl, hn⟩
  · cases hx
  · cases hx
  · have hparts : w ++ '&' :: w' = [] ++ '&' :: name := hl
    obtain ⟨hw, _⟩ := (append_cons_inj_of_notMem not_mem_nil hn).1 hparts.symm
    exact ⟨hc, hw.symm⟩

end

/-- Nothing in what is written for a text can end an attribute or start a tag other than the line
breaks, and every ampersand starts an entity of the text. -/
structure IsSafeMarkup (s out : List Char) : Prop where
  doubleQuote : '"' ∉ out
  singleQuote : '\'' ∉ out
  less : ∀ {u v}, out = u ++ '<' :: v →
    ∃ w, v = 'b' :: 'r' :: '>' :: w ∧ Parts markupChar s '\n' u w
  greater : ∀ {u v}, out = u ++ '>' :: v →
    ∃ w, u = w ++ ['<', 'b', 'r'] ∧ Parts markupChar s '\n' w v
  ampersand : ∀ {u v}, out = u ++ '&' :: v →
    ∃ c ∈ special, ∃ w, '&' :: v = markupChar c ++ w ∧ Parts markupChar s c u w

theorem isSafeMarkup_flatMap (s : List Char) : IsSafeMarkup s (s.flatMap markupChar) where
  doubleQuote h :=
    have ⟨c, _, hc⟩ := mem_flatMap.1 h
    (quote_notMem (writes_markupChar c)).1 hc
  singleQuote h :=
    have ⟨c, _, hc⟩ := mem_flatMap.1 h
    (quote_notMem (writes_markupChar c)).2 hc
  less h := by
    obtain ⟨before, c, after, w, w', rfl, hc, rfl, rfl⟩ := exists_of_flatMap_eq_append_cons h
    obtain ⟨rfl, rfl, rfl⟩ := eq_of_less (hc ▸ writes_markupChar c)
    exact ⟨_, rfl, before, after, rfl, append_nil _, rfl⟩
  greater h := by
    obtain ⟨before, c, after, w, w', rfl, hc, rfl, rfl⟩ := exists_of_flatMap_eq_append_cons h
    obtain ⟨rfl, rfl, rfl⟩ := eq_of_greater (hc ▸ writes_markupChar c)
    exact ⟨_, rfl, before, after, rfl, rfl, rfl⟩
  ampersand h := by
    obtain ⟨before, c, after, w, w', rfl, hc, rfl, rfl⟩ := exists_of_flatMap_eq_append_cons h
    obtain ⟨hspecial, rfl⟩ := eq_of_ampersand (hc ▸ writes_markupChar c)
    refine ⟨c, hspecial, after.flatMap markupChar, ?_, before, after, rfl, append_nil _, rfl⟩
    rw [hc, nil_append, cons_append]

end Markup

/-! ## Literals -/

section Literals

/-- How a character stands in a literal: as it is, or behind a backslash. -/
inductive Writes (marks : List Char) : Char → List Char → Prop
  | plain {c : Char} (h : c ∉ '\\' :: '\n' :: '\t' :: marks) : Writes marks c [c]
  | mark {c : Char} (h : c ∈ '\\' :: marks) : Writes marks c ['\\', c]
  | feed : Writes marks '\n' ['\\', 'n']
  | tab : Writes marks '\t' ['\\', 't']

/-- The characters that stand behind a backslash in a literal. None of them has an escape of its
own already. -/
structure Marking (escape : Char → List Char) where
  marks : List Char
  writes : ∀ c, Writes marks c (escape c)
  isFree : ∀ m ∈ marks, m ∉ ['\\', '\n', '\t', 'n', 't']

def doubleMarking : Marking doubleQuotedChar where
  marks := ['"']
  isFree := by simp
  writes c := by
    unfold doubleQuotedChar
    split
    · exact .mark (by decide)
    · exact .mark (by decide)
    · exact .feed
    · exact .tab
    · rename_i hslash hquote hfeed htab
      apply Writes.plain
      simp only [mem_cons, not_mem_nil, or_false, not_or]
      exact ⟨hslash, hfeed, htab, hquote⟩

def singleMarking : Marking singleQuotedChar where
  marks := ['\'', '$']
  isFree := by simp
  writes c := by
    unfold singleQuotedChar
    split
    · exact .mark (by decide)
    · exact .mark (by decide)
    · exact .mark (by decide)
    · exact .feed
    · exact .tab
    · rename_i hslash hquote hdollar hfeed htab
      apply Writes.plain
      simp only [mem_cons, not_mem_nil, or_false, not_or]
      exact ⟨hslash, hfeed, htab, hquote, hdollar⟩

/-- Reads what stands behind backslashes. A mark without a backslash is refused, and so is a
backslash in front of what has no escape. -/
def readEscapes (marks : List Char) : List Char → Option (List Char)
  | [] => some []
  | '\\' :: 'n' :: rest => (readEscapes marks rest).map ('\n' :: ·)
  | '\\' :: 't' :: rest => (readEscapes marks rest).map ('\t' :: ·)
  | '\\' :: c :: rest =>
    if c ∈ '\\' :: marks then (readEscapes marks rest).map (c :: ·) else none
  | c :: rest => if c ∈ '\\' :: marks then none else (readEscapes marks rest).map (c :: ·)

def slashes (s : List Char) : Nat := (s.reverse.takeWhile (· == '\\')).length

theorem slashes_concat (s : List Char) (c : Char) :
    slashes (s ++ [c]) = if c = '\\' then slashes s + 1 else 0 := by
  rw [slashes, reverse_concat, takeWhile_cons]
  by_cases h : c = '\\' <;> simp [h, slashes]

/-- A literal stays on its line, and each mark has a backslash of its own in front of it. -/
structure IsSafeLiteral (marks out : List Char) : Prop where
  feed : '\n' ∉ out
  tab : '\t' ∉ out
  mark : ∀ {m u v}, m ∈ marks → out = u ++ m :: v → slashes u % 2 = 1

variable {escape : Char → List Char} (k : Marking escape)
include k

section
variable {c : Char} {w : List Char} (h : Writes k.marks c w)
include h

theorem readEscapes_append (rest : List Char) :
    readEscapes k.marks (w ++ rest) = (readEscapes k.marks rest).map (c :: ·) := by
  cases h with
  | plain h =>
    simp only [mem_cons, not_or] at h
    rw [singleton_append, readEscapes, if_neg (by simp [h])]
    -- an escape would start with a backslash
    all_goals
      intros
      exact absurd ‹c = '\\'› h.1
  | mark hc =>
    have hfree : c ≠ 'n' ∧ c ≠ 't' := by
      rcases mem_cons.1 hc with rfl | hm
      · decide
      · have := k.isFree c hm
        simp_all
    rw [cons_append, singleton_append, readEscapes, if_pos hc]
    · exact hfree.1
    · exact hfree.2
  | feed => rfl
  | tab => rfl

theorem slashes_append {u : List Char} (hu : slashes u % 2 = 0) : slashes (u ++ w) % 2 = 0 := by
  cases h with
  | plain h => rw [slashes_concat, if_neg (by simp_all)]
  | mark h =>
    rw [append_cons, slashes_concat, slashes_concat, if_pos rfl]
    by_cases hc : c = '\\'
    · rw [if_pos hc]
      omega
    · rw [if_neg hc]
  | feed => rw [append_cons, slashes_concat, if_neg (by decide)]
  | tab => rw [append_cons, slashes_concat, if_neg (by decide)]

theorem feed_tab_notMem : '\n' ∉ w ∧ '\t' ∉ w := by
  cases h with
  | plain h => simp_all [eq_comm]
  | mark hc =>
    rcases mem_cons.1 hc with rfl | hm
    · decide
    · have := k.isFree c hm
      simp_all [eq_comm]
  | feed => decide
  | tab => decide

theorem eq_backslash_of_mark {m : Char} (hm : m ∈ k.marks) {u v : List Char}
    (hw : w = u ++ m :: v) : u = ['\\'] := by
  have hfree := k.isFree m hm
  simp only [mem_cons, not_mem_nil, or_false, not_or] at hfree
  have hmem : m ∈ w := hw ▸ mem_append_cons_self
  cases h with
  | plain hc =>
    cases mem_singleton.1 hmem
    exact absurd (mem_cons_of_mem _ (mem_cons_of_mem _ (mem_cons_of_mem _ hm))) hc
  | @mark c hc =>
    have hcm : m = c := by simpa [hfree.1] using hmem
    subst hcm
    have hparts : ['\\'] ++ m :: [] = u ++ m :: v := hw
    have hout : m ∉ ['\\'] := by simpa using hfree.1
    exact ((append_cons_inj_of_notMem hout not_mem_nil).1 hparts).1.symm
  | feed => simp [hfree] at hmem
  | tab => simp [hfree] at hmem

end

theorem readEscapes_flatMap (s : List Char) :
    readEscapes k.marks (s.flatMap escape) = some s := by
  induction s with
  | nil => rfl
  | cons c s ih => rw [flatMap_cons, readEscapes_append k (k.writes c), ih, Option.map_some]

theorem slashes_flatMap (s : List Char) : slashes (s.flatMap escape) % 2 = 0 := by
  induction s using List.reverseRecOn with
  | nil => rfl
  | append_singleton s c ih =>
    rw [flatMap_append, flatMap_singleton]
    exact slashes_append k (k.writes c) ih

theorem isSafeLiteral_flatMap (s : List Char) : IsSafeLiteral k.marks (s.flatMap escape) where
  feed h :=
    have ⟨c, _, hc⟩ := mem_flatMap.1 h
    (feed_tab_notMem k (k.writes c)).1 hc
  tab h :=
    have ⟨c, _, hc⟩ := mem_flatMap.1 h
    (feed_tab_notMem k (k.writes c)).2 hc
  mark hm h := by
    obtain ⟨before, c, after, w, w', rfl, hc, rfl, rfl⟩ := exists_of_flatMap_eq_append_cons h
    rw [eq_backslash_of_mark k (k.writes c) hm hc, slashes_concat, if_pos rfl]
    have := slashes_flatMap k before
    omega

end Literals

/-- Escaped texts are read back as they were, and nothing in them is taken for code. -/
theorem readBack_and_isSafe (s : String) :
    (readMarkup (markup s).toList = some s.toList ∧
      IsSafeMarkup s.toList (markup s).toList) ∧
    (readEscapes ['"'] (doubleQuoted s).toList = some s.toList ∧
      IsSafeLiteral ['"'] (doubleQuoted s).toList) ∧
    (readEscapes ['\'', '$'] (singleQuoted s).toList = some s.toList ∧
      IsSafeLiteral ['\'', '$'] (singleQuoted s).toList) := by
  simp only [markup, doubleQuoted, singleQuoted, String.toList_ofList]
  refine ⟨⟨readMarkup_flatMap _, isSafeMarkup_flatMap _⟩, ⟨?_, ?_⟩, ?_, ?_⟩
  · exact readEscapes_flatMap doubleMarking _
  · exact isSafeLiteral_flatMap doubleMarking _
  · exact readEscapes_flatMap singleMarking _
  · exact isSafeLiteral_flatMap singleMarking _

end Escape

end Artboard
