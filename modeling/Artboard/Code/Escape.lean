/-!
# Escaping

Texts inside markup, and inside the string literals of two programming languages. Every escaped
text can be read back.
-/

namespace Artboard

namespace Escape

def markupChar : Char → List Char
  | '&' => "&amp;".toList
  | '<' => "&lt;".toList
  | '>' => "&gt;".toList
  | '"' => "&quot;".toList
  | '\'' => "&#39;".toList
  | '\n' => "<br>".toList
  | c => [c]

def doubleQuotedChar : Char → List Char
  | '\\' => ['\\', '\\']
  | '"' => ['\\', '"']
  | '\n' => ['\\', 'n']
  | '\t' => ['\\', 't']
  | c => [c]

/-- In a literal between single quotes, where a dollar sign starts an interpolation. -/
def singleQuotedChar : Char → List Char
  | '\\' => ['\\', '\\']
  | '\'' => ['\\', '\'']
  | '$' => ['\\', '$']
  | '\n' => ['\\', 'n']
  | '\t' => ['\\', 't']
  | c => [c]

def markup (s : String) : String := String.ofList (s.toList.flatMap markupChar)

def doubleQuoted (s : String) : String := String.ofList (s.toList.flatMap doubleQuotedChar)

def singleQuoted (s : String) : String := String.ofList (s.toList.flatMap singleQuotedChar)

end Escape

end Artboard
