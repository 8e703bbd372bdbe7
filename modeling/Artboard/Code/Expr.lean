import Artboard.Code.Figures
import Artboard.Text.Lines

/-!
# Expressions

Code made of calls, lists and literals, as a tree that languages share. A call or a list is written
on one line, or tall, with every member on lines of its own.
-/

namespace Artboard

inductive Expr
  | atom (code : String)
  | literal (text : String)
  | number (places : Nat) (x : Float)
  | call (tall : Bool) (name : String) (arguments : List (String × Expr))
  | list (tall : Bool) (items : List Expr)
  | method (receiver : Expr) (name : String) (arguments : List (String × Expr))
  | sum (terms : List Expr)

/-- An argument and its label; an empty label is none. -/
abbrev Argument := String × Expr

structure Literals where
  delimiter : Char
  escape : Char → List Char

namespace Literals

def quote (l : Literals) (s : String) : String :=
  String.ofList (l.delimiter :: s.toList.flatMap l.escape ++ [l.delimiter])

end Literals

namespace Expr

def length (x : Float) : Expr := number 2 x

def fraction (x : Float) : Expr := number 3 x

/-- What stands between two brackets. Tall members end in a comma each. -/
def arrange (tall : Bool) (members : List String) : String :=
  match tall, members with
  | true, _ :: _ => "\n" ++ String.join (members.map fun m => indentLines m 2 ++ ",\n")
  | _, _ => ", ".intercalate members

def labelled (label : String) (code : String) : String :=
  if label.isEmpty then code else label ++ ": " ++ code

variable (l : Literals)

mutual

def text : Expr → String
  | atom code => code
  | literal s => l.quote s
  | number places x => Figure.withPlaces places x
  | call tall name as => name ++ "(" ++ arrange tall (argumentTexts as) ++ ")"
  | list tall items => "[" ++ arrange tall (texts items) ++ "]"
  | method r name as => text r ++ "." ++ name ++ "(" ++ arrange false (argumentTexts as) ++ ")"
  | sum terms => "(" ++ " + ".intercalate (texts terms) ++ ")"

def texts : List Expr → List String
  | [] => []
  | e :: rest => text e :: texts rest

def argumentTexts : List (String × Expr) → List String
  | [] => []
  | (label, e) :: rest => labelled label (text e) :: argumentTexts rest

end

end Expr

end Artboard
