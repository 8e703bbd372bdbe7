/-!
# Lines

Cutting a text into lines, and shifting lines to the right. A line ends at a line feed, which
takes a carriage return before it along; nothing follows the last line feed but a further line.
-/

namespace Artboard

/-- White space: the ten ranges of the Unicode property. -/
def isBlankChar (c : Char) : Bool :=
  let n := c.toNat
  (9 ≤ n && n ≤ 13) || n == 0x20 || n == 0x85 || n == 0xA0 || n == 0x1680 ||
    (0x2000 ≤ n && n ≤ 0x200A) || n == 0x2028 || n == 0x2029 || n == 0x202F || n == 0x205F ||
    n == 0x3000

namespace Lines

def close (read : List Char) : List Char :=
  match read with
  | '\r' :: rest => rest.reverse
  | _ => read.reverse

/-- Lines of a text of which the first characters were read, last first. -/
def splitFrom (read : List Char) : List Char → List (List Char)
  | [] => if read.isEmpty then [] else [read.reverse]
  | c :: rest => if c = '\n' then close read :: splitFrom [] rest else splitFrom (c :: read) rest

def split (text : List Char) : List (List Char) := splitFrom [] text

def join : List (List Char) → List Char
  | [] => []
  | [l] => l
  | l :: rest => l ++ '\n' :: join rest

def indentLine (spaces : Nat) (line : List Char) : List Char :=
  if line.all isBlankChar then [] else List.replicate spaces ' ' ++ line

def indent (spaces : Nat) (text : List Char) : List Char :=
  join ((split text).map (indentLine spaces))

def hang (spaces : Nat) (text : List Char) : List Char :=
  let first := text.takeWhile (· != '\n')
  match text.dropWhile (· != '\n') with
  | [] => first
  | _ :: rest => first ++ '\n' :: indent spaces rest

end Lines

def indentLines (s : String) (spaces : Nat) : String := String.ofList (Lines.indent spaces s.toList)

def hangLines (s : String) (spaces : Nat) : String := String.ofList (Lines.hang spaces s.toList)

end Artboard
