import Artboard.Code.Template.Reading
import Artboard.Json.Reader

/-!
# Literals in tags

Values written out: JSON, where a text may also stand between single quotes. The shape of a
literal is a bit wider than that, and what fits it without being JSON has no value.
-/

namespace Artboard

namespace Reading

def hexDigit : Reading Unit := discard (one fun c => (JsonToken.hexDigit? c).isSome)

def stringChar (quote : Char) : Reading Unit :=
  discard (one fun c => c != quote && c != '\\') <|>
  (do char '\\'; discard (one fun c => c == quote || "\\/bfnrt".toList.contains c)) <|>
  (do char '\\'; char 'u'; hexDigit; hexDigit; hexDigit; hexDigit)

def string (quote : Char) : Reading Unit := do
  char quote
  discard (many (stringChar quote))
  char quote

def number : Reading Unit := do
  skip (char '-')
  discard (takeSome Char.isDigit)
  skip (char '.')
  discard (takeWhile Char.isDigit)
  skip (do char 'E'; skip (char '-'); discard (takeSome Char.isDigit))
  wordEnd

def constant (s : String) : Reading Unit := do
  chars s
  wordEnd

def members (opening closing : Char) (member : Reading Unit) : Reading Unit := do
  char opening
  blanks
  skip member
  discard (many (do blanks; char ','; blanks; member))
  blanks
  char closing

/-- The shape of a literal with fewer brackets inside each other than the bound. -/
def shape : Nat → Reading Unit
  | 0 => failure
  | bound + 1 =>
    string '"' <|> string '\'' <|> members '[' ']' (shape bound) <|>
    members '\x7b' '\x7d' (do
      (string '"' <|> string '\'')
      blanks
      char ':'
      blanks
      shape bound) <|>
    number <|> constant "null" <|> constant "true" <|> constant "false"

def requote : List Char → List Char
  | '\\' :: '\'' :: rest => '\'' :: requote rest
  | '"' :: rest => '\\' :: '"' :: requote rest
  | c :: rest => c :: requote rest
  | [] => []

def literalValue (cs : List Char) : Json :=
  let json := match cs with
    | '\'' :: rest => '"' :: requote rest.dropLast ++ ['"']
    | _ => cs
  ((Json.ofText? (String.ofList json)).map Json.merge).getD .unreadable

def literal : Reading Json := do
  let (_, cs) ← withText (fun cs => shape cs.length cs)
  return literalValue cs

end Reading

end Artboard
