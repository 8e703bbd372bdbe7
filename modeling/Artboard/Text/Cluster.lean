import Artboard.Text.ClusterTable
import Artboard.Text.Case

/-!
# Clusters

Extended grapheme clusters: characters that stand for one sign together. Syllables of conjunct
consonants are not joined.
-/

namespace Artboard

namespace Cluster

inductive CharClass
  | cr
  | lf
  | control
  | extend
  | joiner
  | spacingMark
  | prepend
  | regional
  | leading
  | vowel
  | trailing
  | syllableLV
  | syllableLVT
  | pictographic
  | other
  deriving DecidableEq

def classify (c : Char) : CharClass :=
  let n := c.toNat
  if n = 0x0D then .cr
  else if n = 0x0A then .lf
  else if n = 0x200D then .joiner
  else if inRanges n ClusterTable.controlRanges then .control
  else if n < 0xA9 then .other
  else if inRanges n ClusterTable.extendRanges then .extend
  else if inRanges n ClusterTable.spacingMarkRanges then .spacingMark
  else if inRanges n ClusterTable.prependRanges then .prepend
  else if 0x1F1E6 ≤ n ∧ n ≤ 0x1F1FF then .regional
  else if (0x1100 ≤ n ∧ n ≤ 0x115F) ∨ (0xA960 ≤ n ∧ n ≤ 0xA97C) then .leading
  else if (0x1160 ≤ n ∧ n ≤ 0x11A7) ∨ (0xD7B0 ≤ n ∧ n ≤ 0xD7C6) then .vowel
  else if n = 0x16D63 ∨ (0x16D67 ≤ n ∧ n ≤ 0x16D6A) then .vowel
  else if (0x11A8 ≤ n ∧ n ≤ 0x11FF) ∨ (0xD7CB ≤ n ∧ n ≤ 0xD7FB) then .trailing
  else if 0xAC00 ≤ n ∧ n ≤ 0xD7A3 then
    if (n - 0xAC00) % 28 = 0 then .syllableLV else .syllableLVT
  else if inRanges n ClusterTable.pictographicRanges then .pictographic
  else .other

/-- What of the text before a place decides whether it may be cut there. -/
structure Before where
  last : CharClass
  oddRegional : Bool
  pictograph : Bool
  joined : Bool

def Before.add (b : Option Before) (c : CharClass) : Before where
  last := c
  oddRegional := c = .regional && !((b.map (·.oddRegional)).getD false)
  pictograph := c = .pictographic || (c = .extend && (b.map (·.pictograph)).getD false)
  joined := c = .joiner && (b.map (·.pictograph)).getD false

def breaks (b : Before) (c : CharClass) : Bool :=
  match b.last, c with
  | .cr, .lf => false
  | .cr, _ | .lf, _ | .control, _ | _, .cr | _, .lf | _, .control => true
  | .leading, .leading | .leading, .vowel | .leading, .syllableLV | .leading, .syllableLVT => false
  | .syllableLV, .vowel | .syllableLV, .trailing | .vowel, .vowel | .vowel, .trailing => false
  | .syllableLVT, .trailing | .trailing, .trailing => false
  | _, .extend | _, .joiner | _, .spacingMark => false
  | .prepend, _ => false
  | _, .pictographic => !b.joined
  | _, .regional => !b.oddRegional
  | _, _ => true

/-- Clusters of a text, where `pending` holds the characters of the last one, last first. -/
def splitFrom (b : Option Before) (pending : List Char) : List Char → List (List Char)
  | [] => if pending.isEmpty then [] else [pending.reverse]
  | c :: rest =>
    let k := classify c
    let next := Before.add b k
    match b with
    | none => splitFrom next [c] rest
    | some b' =>
      if breaks b' k then pending.reverse :: splitFrom next [c] rest
      else splitFrom next (c :: pending) rest

def split (cs : List Char) : List (List Char) := splitFrom none [] cs

end Cluster

end Artboard
