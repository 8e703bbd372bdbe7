import Artboard.Json.Value
import Artboard.Number.Decimal

/-!
# Writing JSON

The text of a value, without blanks. Every line separator in a text is escaped, so a written value
stands on one line. What stands for no value is written as `null`.
-/

namespace Artboard

namespace JsonNumber

def trim (n : Nat) (p : Int) : List Char × Int :=
  let zeros := ((Decimal.digits n).reverse.takeWhile (· == '0')).length
  ((Decimal.digits n).take ((Decimal.digits n).length - zeros), p + zeros)

def exponentChars (exponent : Int) : List Char :=
  'e' :: (if 0 ≤ exponent then ['+'] else []) ++ (toString exponent).toList

def scientific (ds : List Char) (exponent : Int) : List Char :=
  match ds with
  | [] => []
  | [d] => d :: exponentChars exponent
  | d :: rest => d :: '.' :: rest ++ exponentChars exponent

/-- Floats have a point or an exponent. The point is written as long as the first digit stands for
a power of ten from `10 ^ -5` to `10 ^ 15`. -/
def floatChars (n : Nat) (p : Int) : List Char :=
  let (ds, q) := trim n p
  let magnitude := q + ds.length
  if -5 < magnitude ∧ magnitude ≤ 16 then
    Decimal.positional n p ++ if 0 ≤ q then ['.', '0'] else []
  else scientific ds (magnitude - 1)

def text : JsonNumber → String
  | natural n => toString n
  | negative n => "-" ++ toString n
  | float x =>
    match BinaryFloat.unpack x with
    | .finite s m e _ =>
      let (n, p) := Decimal.shortest .even (BinaryFloat.format Float) m e
      String.ofList (Decimal.signed s (floatChars n p))
    | .zero s => String.ofList (Decimal.signed s "0.0".toList)
    | .infinity _ | .notANumber => "null"

end JsonNumber

namespace Json

def hexDigits (n : Nat) : List Char :=
  [n / 4096, n / 256, n / 16, n].map fun d => Nat.digitChar (d % 16)

def endsLine (c : Char) : Bool := c = '\x85' || c = '\u2028' || c = '\u2029'

def escapeChar : Char → List Char
  | '"' => ['\\', '"']
  | '\\' => ['\\', '\\']
  | '\n' => ['\\', 'n']
  | '\r' => ['\\', 'r']
  | '\t' => ['\\', 't']
  | c => if c < ' ' || endsLine c then '\\' :: 'u' :: hexDigits c.toNat else [c]

def quote (s : String) : String := String.ofList ('"' :: s.toList.flatMap escapeChar ++ ['"'])

mutual

def write : Json → String
  | null => "null"
  | bool b => if b then "true" else "false"
  | number n => n.text
  | text s => quote s
  | list items => "[" ++ ",".intercalate (writeItems items) ++ "]"
  | object fields => "\x7b" ++ ",".intercalate (writeFields fields) ++ "\x7d"
  | unreadable => "null"

def writeItems : List Json → List String
  | [] => []
  | v :: rest => write v :: writeItems rest

def writeFields : List (String × Json) → List String
  | [] => []
  | (k, v) :: rest => (quote k ++ ":" ++ write v) :: writeFields rest

end

end Json

end Artboard
