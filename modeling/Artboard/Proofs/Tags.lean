import Artboard.Code.Framework
import Artboard.Proofs.Branches
import Artboard.Proofs.Quotes
import Artboard.Proofs.Reading

/-!
# Tags of documents

A document is read for its tags, and for the names of their attributes. Texts between the tags and
values between quotes are passed over, whatever the host put into them; so the tags are those of the
tree, as long as no family of fonts has a quote of its own.
-/

open List

namespace Artboard

/-! ## Reading tags -/

inductive MarkupTag
  | opening (name : String) (attributes : List String)
  | closing (name : String)
  deriving DecidableEq

inductive Mode
  | text
  | tag
  | name (word : List Char)
  | gap (name : String) (attributes : List String)
  | attribute (name : String) (attributes : List String) (word : List Char)
  | equals (name : String) (attributes : List String)
  | value (name : String) (attributes : List String)
  | closed (name : String) (attributes : List String)
  | closing (word : List Char)

structure Reader where
  tags : List MarkupTag
  mode : Mode

namespace Reader

def isNameChar (c : Char) : Bool := c.isAlpha || c == '-'

def finish (ts : List MarkupTag) (name : String) (attributes : List String) : Reader :=
  ⟨if name = "br" then ts else ts ++ [.opening name attributes], .text⟩

def step : Reader → Char → Option Reader
  | ⟨ts, .text⟩, c => some ⟨ts, if c = '<' then .tag else .text⟩
  | ⟨ts, .tag⟩, c =>
    if c = '/' then some ⟨ts, .closing []⟩
    else if isNameChar c then some ⟨ts, .name [c]⟩
    else none
  | ⟨ts, .name w⟩, c =>
    if c = '>' then some (finish ts (String.ofList w) [])
    else if c = ' ' then some ⟨ts, .gap (String.ofList w) []⟩
    else if isNameChar c then some ⟨ts, .name (w ++ [c])⟩
    else none
  | ⟨ts, .gap n as⟩, c => if isNameChar c then some ⟨ts, .attribute n as [c]⟩ else none
  | ⟨ts, .attribute n as w⟩, c =>
    if c = '=' then some ⟨ts, .equals n (as ++ [String.ofList w])⟩
    else if isNameChar c then some ⟨ts, .attribute n as (w ++ [c])⟩
    else none
  | ⟨ts, .equals n as⟩, c => if c = '"' then some ⟨ts, .value n as⟩ else none
  | ⟨ts, .value n as⟩, c => some ⟨ts, if c = '"' then .closed n as else .value n as⟩
  | ⟨ts, .closed n as⟩, c =>
    if c = '>' then some (finish ts n as)
    else if c = ' ' then some ⟨ts, .gap n as⟩
    else none
  | ⟨ts, .closing w⟩, c =>
    if c = '>' then some ⟨ts ++ [.closing (String.ofList w)], .text⟩
    else if isNameChar c then some ⟨ts, .closing (w ++ [c])⟩
    else none

def run (r : Reader) (cs : List Char) : Option Reader := cs.foldlM step r

end Reader

def readTags (s : String) : Option (List MarkupTag) :=
  match Reader.run ⟨[], .text⟩ s.toList with
  | some ⟨ts, .text⟩ => some ts
  | _ => none

namespace Reader

theorem run_nil (r : Reader) : run r [] = some r := rfl

theorem run_cons (r : Reader) (c : Char) (cs : List Char) :
    run r (c :: cs) = (step r c).bind fun r => run r cs := rfl

theorem run_append (r : Reader) (cs ds : List Char) :
    run r (cs ++ ds) = (run r cs).bind fun r => run r ds := foldlM_append

theorem run_text {ts : List MarkupTag} : ∀ {cs : List Char}, '<' ∉ cs →
    run ⟨ts, .text⟩ cs = some ⟨ts, .text⟩
  | [], _ => rfl
  | c :: cs, h => by
    rw [mem_cons, not_or] at h
    rw [run_cons, step, if_neg (Ne.symm h.1)]
    exact run_text h.2

theorem run_value {ts : List MarkupTag} {n : String} {as : List String} : ∀ {cs : List Char},
    '"' ∉ cs → run ⟨ts, .value n as⟩ cs = some ⟨ts, .value n as⟩
  | [], _ => rfl
  | c :: cs, h => by
    rw [mem_cons, not_or] at h
    rw [run_cons, step, if_neg (Ne.symm h.1)]
    exact run_value h.2

theorem ne_of_isNameChar {c d : Char} (h : isNameChar c = true) (hd : isNameChar d = false) :
    c ≠ d := by
  rintro rfl
  rw [h] at hd
  cases hd

theorem run_name {ts : List MarkupTag} : ∀ {v cs : List Char}, (∀ c ∈ cs, isNameChar c = true) →
    run ⟨ts, .name v⟩ cs = some ⟨ts, .name (v ++ cs)⟩
  | v, [], _ => by rw [run_nil, append_nil]
  | v, c :: cs, h => by
    have hc := h c mem_cons_self
    rw [run_cons, step, if_neg (ne_of_isNameChar hc rfl), if_neg (ne_of_isNameChar hc rfl),
      if_pos hc, Option.bind_some, run_name fun d hd => h d (mem_cons_of_mem _ hd), append_assoc,
      singleton_append]

theorem run_attribute {ts : List MarkupTag} {n : String} {as : List String} : ∀ {v cs : List Char},
    (∀ c ∈ cs, isNameChar c = true) →
      run ⟨ts, .attribute n as v⟩ cs = some ⟨ts, .attribute n as (v ++ cs)⟩
  | v, [], _ => by rw [run_nil, append_nil]
  | v, c :: cs, h => by
    have hc := h c mem_cons_self
    rw [run_cons, step, if_neg (ne_of_isNameChar hc rfl), if_pos hc, Option.bind_some,
      run_attribute fun d hd => h d (mem_cons_of_mem _ hd), append_assoc, singleton_append]

def IsName (s : String) : Prop := s ≠ "" ∧ s.toList.all isNameChar = true

instance (s : String) : Decidable (IsName s) := inferInstanceAs (Decidable (_ ∧ _))

theorem IsName.toList_eq {s : String} (h : IsName s) :
    ∃ c cs, s.toList = c :: cs ∧ isNameChar c = true ∧ ∀ d ∈ cs, isNameChar d = true := by
  cases hs : s.toList with
  | nil => exact absurd (String.toList_eq_nil_iff.mp hs) h.1
  | cons c cs =>
    have hall := h.2
    rw [hs, all_cons, Bool.and_eq_true, all_eq_true] at hall
    exact ⟨c, cs, rfl, hall⟩

theorem run_attributeText {ts : List MarkupTag} {n : String} {as : List String} {a : Attribute}
    (hname : IsName a.name) (hvalue : Quotable a.value) :
    run ⟨ts, .gap n as⟩ (Markup.Attribute.text a).toList =
      some ⟨ts, .closed n (as ++ [a.name])⟩ := by
  obtain ⟨c, cs, hs, hc, hcs⟩ := hname.toList_eq
  have hword : String.ofList (c :: cs) = a.name := by rw [← hs, String.ofList_toList]
  have htext : (Markup.Attribute.text a).toList =
      c :: (cs ++ ('=' :: '"' :: (a.value.toList ++ ['"']))) := by
    simp [Markup.Attribute.text, hs]
  rw [htext, run_cons, step, if_pos hc, Option.bind_some, run_append, run_attribute hcs,
    Option.bind_some, run_cons, step, if_pos rfl, Option.bind_some, run_cons, step, if_pos rfl,
    Option.bind_some, run_append, run_value hvalue, singleton_append, hword]
  rfl

theorem run_attributes {ts : List MarkupTag} {n : String} : ∀ {as : List Attribute}
    {ns : List String}, (∀ a ∈ as, IsName a.name ∧ Quotable a.value) →
      run ⟨ts, .closed n ns⟩ (String.join (as.map fun a => " " ++ Markup.Attribute.text a)).toList =
        some ⟨ts, .closed n (ns ++ as.map (·.name))⟩
  | [], ns, _ => by simp [run_nil]
  | a :: as, ns, h => by
    rw [forall_mem_cons] at h
    have htext : (String.join ((a :: as).map fun a => " " ++ Markup.Attribute.text a)).toList =
        ' ' :: ((Markup.Attribute.text a).toList ++
          (String.join (as.map fun a => " " ++ Markup.Attribute.text a)).toList) := by
      simp [String.toList_join]
    rw [htext, run_cons, step, if_neg (by decide), if_pos rfl, Option.bind_some, run_append,
      run_attributeText h.1.1 h.1.2, Option.bind_some, run_attributes h.2, append_assoc, map_cons,
      singleton_append]

/-- What a text adds to the tags, read from the start to the end. -/
def Yields (cs : List Char) (added : List MarkupTag) : Prop :=
  ∀ ts, run ⟨ts, .text⟩ cs = some ⟨ts ++ added, .text⟩

theorem Yields.append {cs ds : List Char} {us vs : List MarkupTag} (hcs : Yields cs us)
    (hds : Yields ds vs) : Yields (cs ++ ds) (us ++ vs) := by
  intro ts
  rw [run_append, hcs, Option.bind_some, hds, append_assoc]

theorem yields_text {cs : List Char} (h : '<' ∉ cs) : Yields cs [] := by
  intro ts
  rw [run_text h, append_nil]

theorem isAdditive_yields : IsAdditive Yields := ⟨yields_text (by simp), Yields.append⟩

def LineYields (l : String) (added : List MarkupTag) : Prop := Yields l.toList added

theorem yields_tag {n : String} (hn : IsName n) (hbr : n ≠ "br") {as : List Attribute}
    (has : ∀ a ∈ as, IsName a.name ∧ Quotable a.value) :
    Yields (Markup.tag n as).toList [.opening n (as.map (·.name))] := by
  intro ts
  obtain ⟨c, cs, hs, hc, hcs⟩ := hn.toList_eq
  have hword : String.ofList ([c] ++ cs) = n := by rw [singleton_append, ← hs, String.ofList_toList]
  have htext : (Markup.tag n as).toList = '<' :: c :: (cs ++
      ((String.join (as.map fun a => " " ++ Markup.Attribute.text a)).toList ++ ['>'])) := by
    simp [Markup.tag, hs]
  -- behind its name a tag is read on as behind a value
  have hbehind : ∀ {d : Char} {ds : List Char}, d = ' ' ∨ d = '>' →
      run ⟨ts, .name ([c] ++ cs)⟩ (d :: ds) = run ⟨ts, .closed n []⟩ (d :: ds) := by
    rintro d ds (rfl | rfl) <;> simp [run_cons, step, ← hword]
  have hstart : ∀ l : List Attribute, ∃ d ds, (d = ' ' ∨ d = '>') ∧
      (String.join (l.map fun a => " " ++ Markup.Attribute.text a)).toList ++ ['>'] = d :: ds := by
    intro l
    cases l with
    | nil => exact ⟨'>', [], .inr rfl, by simp⟩
    | cons a l => exact ⟨' ', _, .inl rfl, by simp [String.toList_join]; rfl⟩
  obtain ⟨d, ds, hd, hds⟩ := hstart as
  rw [htext, run_cons, step, if_pos rfl, Option.bind_some, run_cons, step,
    if_neg (ne_of_isNameChar hc rfl), if_pos hc, Option.bind_some, run_append, run_name hcs,
    Option.bind_some, hds, hbehind hd, ← hds, run_append, run_attributes has, Option.bind_some,
    run_cons, step, if_pos rfl, nil_append, finish, if_neg hbr]
  rfl

theorem yields_closing {n : String} (hn : IsName n) :
    Yields ("</" ++ n ++ ">").toList [.closing n] := by
  have hclosing : ∀ {ts} {v cs : List Char}, (∀ c ∈ cs, isNameChar c = true) →
      run ⟨ts, .closing v⟩ cs = some ⟨ts, .closing (v ++ cs)⟩ := by
    intro ts v cs h
    induction cs generalizing v with
    | nil => rw [run_nil, append_nil]
    | cons c cs ih =>
      rw [forall_mem_cons] at h
      rw [run_cons, step, if_neg (ne_of_isNameChar h.1 rfl), if_pos h.1, Option.bind_some, ih h.2,
        append_assoc, singleton_append]
  intro ts
  have htext : ("</" ++ n ++ ">").toList = '<' :: '/' :: (n.toList ++ ['>']) := by simp
  rw [htext, run_cons, step, if_pos rfl, Option.bind_some, run_cons, step, if_pos rfl,
    Option.bind_some, run_append, hclosing (all_eq_true.mp hn.2), Option.bind_some, run_cons, step, if_pos rfl,
    nil_append, String.ofList_toList]
  rfl

theorem yields_markup (s : String) : Yields (Escape.markup s).toList [] := by
  -- only a line break becomes a tag, which the reader passes over
  have hchar : ∀ c, Yields (Escape.markupChar c) [] := by
    intro c
    unfold Escape.markupChar
    split
    · exact yields_text (by decide)
    · exact yields_text (by decide)
    · exact yields_text (by decide)
    · exact yields_text (by decide)
    · exact yields_text (by decide)
    · intro ts
      rw [append_nil]
      rfl
    · rename_i hlt _ _ _ _
      apply yields_text
      simpa [eq_comm] using hlt
  unfold Escape.markup
  rw [String.toList_ofList]
  induction s.toList with
  | nil => exact yields_text (by simp)
  | cons c cs ih =>
    rw [flatMap_cons]
    exact (hchar c).append ih

end Reader

/-! ## Tags of markup -/

namespace Markup

def inlineTags : Inline → List MarkupTag
  | .plain _ => []
  | .span style _ => [.opening "span" [style.name], .closing "span"]

mutual

def tags : Markup → List MarkupTag
  | paragraph as content =>
    .opening "p" (as.map (·.name)) :: (content.flatMap inlineTags ++ [.closing "p"])
  | leaf as => [.opening "div" (as.map (·.name)), .closing "div"]
  | box as children => .opening "div" (as.map (·.name)) :: (tagsOfAll children ++ [.closing "div"])

def tagsOfAll : List Markup → List MarkupTag
  | [] => []
  | m :: rest => tags m ++ tagsOfAll rest

end

def AreSound (as : List Attribute) : Prop := ∀ a ∈ as, Reader.IsName a.name ∧ Quotable a.value

def IsInline : Inline → Prop
  | .plain w => ∃ t, w = Escape.markup t
  | .span style w => AreSound [style] ∧ ∃ t, w = Escape.markup t

mutual

def IsSound : Markup → Prop
  | paragraph as content => AreSound as ∧ ∀ x ∈ content, IsInline x
  | leaf as => AreSound as
  | box as children => AreSound as ∧ AreAllSound children

def AreAllSound : List Markup → Prop
  | [] => True
  | m :: rest => IsSound m ∧ AreAllSound rest

end

theorem yields_spaces (n : Nat) : Reader.Yields (spaces n).toList [] := by
  apply Reader.yields_text
  simp [spaces]

theorem yields_inlines : ∀ {content : List Inline}, (∀ x ∈ content, IsInline x) →
    Reader.Yields (String.join (content.map inlineText)).toList (content.flatMap inlineTags)
  | [], _ => Reader.yields_text (by simp)
  | x :: content, h => by
    rw [forall_mem_cons] at h
    have hx : Reader.Yields (inlineText x).toList (inlineTags x) := by
      cases x with
      | plain w =>
        obtain ⟨t, rfl⟩ := h.1
        exact Reader.yields_markup t
      | span style w =>
        obtain ⟨hstyle, t, rfl⟩ := h.1
        have hopening := Reader.yields_tag (n := "span") (by decide) (by decide) hstyle
        have hclosing := Reader.yields_closing (n := "span") (by decide)
        have hall := (hopening.append (Reader.yields_markup t)).append hclosing
        simpa [inlineText, inlineTags] using hall
    have hrest := hx.append (yields_inlines h.2)
    simpa [String.toList_join] using hrest

mutual

theorem each_lines : ∀ (m : Markup) (depth : Nat), IsSound m →
    Each Reader.LineYields (lines depth m) (tags m)
  | paragraph as content, depth, h => by
    have hopening := Reader.yields_tag (n := "p") (by decide) (by decide) h.1
    have hclosing := Reader.yields_closing (n := "p") (by decide)
    have hall := (((yields_spaces depth).append hopening).append
      (yields_inlines h.2)).append hclosing
    apply Each.single
    simpa [tags, Reader.LineYields] using hall
  | leaf as, depth, h => by
    have hopening := Reader.yields_tag (n := "div") (by decide) (by decide) h
    have hclosing := Reader.yields_closing (n := "div") (by decide)
    have hall := ((yields_spaces depth).append hopening).append hclosing
    apply Each.single
    simpa [tags, Reader.LineYields] using hall
  | box as children, depth, h => by
    have hopening := Reader.yields_tag (n := "div") (by decide) (by decide) h.1
    have hclosing := Reader.yields_closing (n := "div") (by decide)
    have hfirst : Each Reader.LineYields [spaces depth ++ tag "div" as]
        [.opening "div" (as.map (·.name))] := by
      apply Each.single
      simpa [Reader.LineYields] using (yields_spaces depth).append hopening
    have hlast : Each Reader.LineYields [spaces depth ++ "</div>"] [.closing "div"] := by
      apply Each.single
      simpa [Reader.LineYields] using (yields_spaces depth).append hclosing
    have hall := (hfirst.append (each_linesOfAll children (depth + 2) h.2)).append hlast
    simpa [lines, tags] using hall

theorem each_linesOfAll : ∀ (ms : List Markup) (depth : Nat), AreAllSound ms →
    Each Reader.LineYields (linesOfAll depth ms) (tagsOfAll ms)
  | [], _, _ => .nil
  | m :: ms, depth, h => by
    rw [linesOfAll, tagsOfAll]
    exact (each_lines m depth h.1).append (each_linesOfAll ms depth h.2)

end

theorem readTags_lines {ms : List Markup} (depth : Nat) (h : AreAllSound ms) :
    readTags ("\n".intercalate (linesOfAll depth ms)) = some (tagsOfAll ms) := by
  have hyields := Reader.isAdditive_yields.intercalate (s := "\n")
    (Reader.yields_text (by decide)) (each_linesOfAll ms depth h) []
  unfold readTags
  rw [hyields]
  rfl

example : readTags "<div data-name=\"a>b\">c<br>d</div>" =
    some [.opening "div" ["data-name"], .closing "div"] := by decide

example : readTags "<p style=\"a\"b\"></p>" = none := by decide

end Markup

end Artboard
