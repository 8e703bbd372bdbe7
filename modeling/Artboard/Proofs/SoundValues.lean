import Artboard.Json.Reader
import Artboard.Proofs.Numerals

/-!
# Values read from texts

Whatever a text holds, the numbers in the value read from it are sound: every token that stands for a
value stands for a sound one, and reading only puts together what tokens stand for.
-/

open List

namespace Artboard

namespace Json

mutual

def IsSound : Json → Prop
  | number n => n.IsSound
  | list items => ItemsSound items
  | object fields => FieldsSound fields
  | _ => True

def ItemsSound : List Json → Prop
  | [] => True
  | v :: rest => IsSound v ∧ ItemsSound rest

def FieldsSound : List (String × Json) → Prop
  | [] => True
  | (_, v) :: rest => IsSound v ∧ FieldsSound rest

end

theorem itemsSound_iff {items : List Json} : ItemsSound items ↔ ∀ v ∈ items, v.IsSound := by
  induction items with
  | nil => simp [ItemsSound]
  | cons v rest ih => rw [ItemsSound, ih, forall_mem_cons]

theorem fieldsSound_iff {fields : List (String × Json)} :
    FieldsSound fields ↔ ∀ f ∈ fields, f.2.IsSound := by
  induction fields with
  | nil => simp [FieldsSound]
  | cons f rest ih => rw [FieldsSound, ih, forall_mem_cons]

end Json

/-! ## Tokens -/

namespace JsonToken

def IsSound : JsonToken → Prop
  | scalar v => v.IsSound
  | _ => True

/-- Tokens are sound, and so is the value of a word that is being read. -/
def State.IsSound : State → Prop
  | .word _ v => v.IsSound
  | _ => True

def IsSoundStep (p : List JsonToken × State) : Prop := (∀ t ∈ p.1, t.IsSound) ∧ p.2.IsSound

theorem isSound_finishNumeral (n : Numeral) : (finishNumeral n).IsSound := by
  change ((n.value?.map Json.number).getD .unreadable).IsSound
  cases h : n.value? with
  | none => trivial
  | some x => exact Numeral.isSound_value? h

theorem isSoundStep_die : IsSoundStep die := ⟨by simp [die, IsSound], trivial⟩

theorem isSoundStep_state {s : State} (h : s.IsSound) : IsSoundStep ([], s) :=
  ⟨fun _ ht => absurd ht not_mem_nil, h⟩

theorem isSoundStep_begin (c : Char) : IsSoundStep (begin c) := by
  unfold begin
  split
  all_goals first | exact isSoundStep_state trivial | exact ⟨by simp [IsSound], trivial⟩ | skip
  split
  · exact isSoundStep_state trivial
  split
  · exact isSoundStep_state trivial
  · exact isSoundStep_die

theorem isSoundStep_closeNumeral (n : Numeral) (c : Char) : IsSoundStep (closeNumeral n c) := by
  obtain ⟨htokens, hstate⟩ := isSoundStep_begin c
  exact ⟨forall_mem_cons.mpr ⟨isSound_finishNumeral n, htokens⟩, hstate⟩

theorem isSoundStep_stepNumeral (phase : Phase) (n : Numeral) (c : Char) :
    IsSoundStep (stepNumeral phase n c) := by
  unfold stepNumeral
  dsimp only
  split
  all_goals (repeat' split)
  all_goals first
    | exact isSoundStep_state trivial
    | exact isSoundStep_die
    | exact isSoundStep_closeNumeral n c

theorem isSoundStep_step {s : State} (h : s.IsSound) (c : Char) : IsSoundStep (step s c) := by
  cases s with
  | idle => exact isSoundStep_begin c
  | dead => exact isSoundStep_state trivial
  | numeral phase n => exact isSoundStep_stepNumeral phase n c
  | word rest v =>
    cases rest with
    | nil => exact isSoundStep_die
    | cons w rest =>
      rw [step]
      split
      · split
        · exact ⟨forall_mem_singleton.mpr h, trivial⟩
        · exact isSoundStep_state h
      · exact isSoundStep_die
  | inText read =>
    unfold step
    dsimp only
    split
    · exact isSoundStep_state trivial
    split
    · exact isSoundStep_die
    split
    · exact ⟨forall_mem_singleton.mpr trivial, trivial⟩
    · exact isSoundStep_state trivial
  | escape read =>
    unfold step
    dsimp only
    split
    · exact isSoundStep_state trivial
    split
    · exact isSoundStep_state trivial
    · exact isSoundStep_die
  | code read missing value =>
    unfold step
    dsimp only
    split
    · exact isSoundStep_die
    split
    · exact isSoundStep_state trivial
    · exact isSoundStep_state trivial

theorem isSound_finish (s : State) : ∀ t ∈ finish s, t.IsSound := by
  have hbad : ∀ t ∈ [bad], t.IsSound := forall_mem_singleton.mpr trivial
  cases s with
  | idle | dead => exact fun _ ht => absurd ht not_mem_nil
  | word | inText | escape | code => exact hbad
  | numeral phase n =>
    have hn : ∀ t ∈ [finishNumeral n], t.IsSound := forall_mem_singleton.mpr (isSound_finishNumeral n)
    cases phase with
    | zero | whole | fraction | exponentDigits => exact hn
    | sign | point | exponent | exponentSign => exact hbad

theorem isSound_run (cs : List Char) {s : State} (h : s.IsSound) : ∀ t ∈ run s cs, t.IsSound := by
  induction cs generalizing s with
  | nil => exact isSound_finish s
  | cons c cs ih =>
    obtain ⟨htokens, hstate⟩ := isSoundStep_step h c
    exact forall_mem_append.mpr ⟨htokens, ih hstate⟩

end JsonToken

/-! ## Reading -/

namespace Json

def Frame.IsSound : Frame → Prop
  | items done => ∀ v ∈ done, v.IsSound
  | fields done _ => ∀ f ∈ done, f.2.IsSound
  | lost _ => True

theorem isSound_closeFrame {f : Frame} (h : f.IsSound) : (closeFrame f).IsSound := by
  cases f with
  | items done =>
    rw [closeFrame, IsSound, itemsSound_iff]
    exact fun v hv => h v (mem_reverse.mp hv)
  | fields done key =>
    rw [closeFrame, IsSound, fieldsSound_iff]
    exact fun p hp => h p (mem_reverse.mp hp)
  | lost => trivial

theorem isSound_addTo {v : Json} (hv : v.IsSound) {f : Frame} (h : f.IsSound) :
    (addTo v f).IsSound := by
  cases f with
  | items done => exact forall_mem_cons.mpr ⟨hv, h⟩
  | fields done key => exact forall_mem_cons.mpr ⟨hv, h⟩
  | lost => trivial

theorem isSound_takeKey (key? : Option String) {f : Frame} (h : f.IsSound) :
    (takeKey key? f).IsSound := by
  cases f with
  | items => exact h
  | fields =>
    cases key? with
    | none => trivial
    | some k => exact h
  | lost => trivial

theorem isSound_text (s? : Option String) : ((s?.map text).getD unreadable).IsSound := by
  cases s? <;> trivial

/-- What reading comes to once a value is complete: it is all there is to read, or goes into the
frame on top. -/
def readOn (ts : List JsonToken) (w : Json) : List Frame → Option (Json × List JsonToken)
  | [] => some (w, ts)
  | f :: below => read .commaOrClose (addTo w f :: below) ts

theorem isSound_read {v : Json} {rest : List JsonToken} : ∀ (ts : List JsonToken) {e : Expect}
    {stack : List Frame}, (∀ t ∈ ts, t.IsSound) → (∀ f ∈ stack, f.IsSound) →
      read e stack ts = some (v, rest) → v.IsSound := by
  intro ts
  induction ts with
  | nil =>
    intro e stack _ _ h
    cases h
  | cons t ts ih =>
    intro e stack hts hstack h
    obtain ⟨ht, hts⟩ := forall_mem_cons.mp hts
    have ih : ∀ {e stack}, (∀ f ∈ stack, f.IsSound) → read e stack ts = some (v, rest) →
        v.IsSound := ih hts
    -- a complete value is what was read, or goes into the frame on top
    have hvalue : ∀ {w : Json} {stack : List Frame}, w.IsSound → (∀ f ∈ stack, f.IsSound) →
        readOn ts w stack = some (v, rest) → v.IsSound := by
      intro w stack hw hstack h
      cases stack with
      | nil =>
        cases h
        exact hw
      | cons f below =>
        obtain ⟨hf, hbelow⟩ := forall_mem_cons.mp hstack
        exact ih (forall_mem_cons.mpr ⟨isSound_addTo hw hf, hbelow⟩) h
    -- a frame nested too deep is entered as lost and drops what it reads
    have henter : ∀ {e : Expect} {f : Frame}, f.IsSound →
        read e ((if tooDeep stack then .lost f.isObject else f) :: stack) ts = some (v, rest) →
        v.IsSound := by
      intro e f hf h
      refine ih (forall_mem_cons.mpr ⟨?_, hstack⟩) h
      split
      · trivial
      · exact hf
    unfold read at h
    dsimp only at h
    split at h
    case h_1 | h_2 => exact hvalue ht hstack h
    case h_3 | h_4 => exact hvalue (isSound_text _) hstack h
    case h_5 | h_6 | h_7 | h_8 => exact henter (by exact fun _ h => absurd h not_mem_nil) h
    case h_9 | h_10 =>
      obtain ⟨hf, hbelow⟩ := forall_mem_cons.mp hstack
      exact ih (forall_mem_cons.mpr ⟨isSound_takeKey _ hf, hbelow⟩) h
    case h_11 | h_12 => exact ih hstack h
    case h_13 | h_14 | h_15 =>
      obtain ⟨hf, hbelow⟩ := forall_mem_cons.mp hstack
      split at h
      · exact hvalue (isSound_closeFrame hf) hbelow h
      · cases h
    case h_16 => cases h

/-- **Texts are read as sound values.** -/
theorem isSound_readFirst? {s : String} {v : Json} {alone : Bool}
    (h : readFirst? s = some (v, alone)) : v.IsSound := by
  obtain ⟨⟨w, rest⟩, hread, hv⟩ := Option.map_eq_some_iff.mp h
  cases hv
  have htokens := JsonToken.isSound_run s.toList (s := .idle) trivial
  exact isSound_read _ htokens (fun _ h => absurd h not_mem_nil) hread

end Json

end Artboard
