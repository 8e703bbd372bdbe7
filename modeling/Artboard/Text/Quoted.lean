import Artboard.Text.Case
import Artboard.Text.PrintableTable

/-!
# Quoted texts

A text between double quotes in which everything that does not show is escaped.
-/

namespace Artboard

namespace Quoted

def isPrintable (c : Char) : Bool :=
  !inRanges c.toNat PrintableTable.hiddenRanges &&
    !inRanges c.toNat PrintableTable.combiningRanges &&
    !inRanges c.toNat PrintableTable.ignorableRanges

def escapeChar : Char → List Char
  | '\x00' => ['\\', '0']
  | '\t' => ['\\', 't']
  | '\r' => ['\\', 'r']
  | '\n' => ['\\', 'n']
  | '"' => ['\\', '"']
  | '\\' => ['\\', '\\']
  | c =>
    if isPrintable c then [c]
    else ['\\', 'u', '\x7b'] ++ Nat.toDigits 16 c.toNat ++ ['\x7d']

def quote (s : String) : String := String.ofList ('"' :: s.toList.flatMap escapeChar ++ ['"'])

end Quoted

end Artboard
