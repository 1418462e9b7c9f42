import HubRoutes.Text.Hidden
import HubRoutes.Text.Numeral

/-!
# Quoted texts

The form in which a message quotes a text or a single character, such that every character of it can
be told from the message: the enclosing quote and the backslash are escaped, the common controls
have short escapes, and a hidden character is written as its code point.
-/

namespace HubRoutes.Text.Quoted

/-- The written form of one character between a given pair of quotes. -/
def escape (quote character : Char) : List Char :=
  if character == quote || character == '\\' then ['\\', character]
  else if character == '\x00' then ['\\', '0']
  else if character == '\t' then ['\\', 't']
  else if character == '\n' then ['\\', 'n']
  else if character == '\r' then ['\\', 'r']
  else if Hidden.isHidden character then
    ['\\', 'u', '{'] ++ Numeral.hexadecimal character.toNat ++ ['}']
  else [character]

def text (content : String) : String :=
  String.ofList ('"' :: content.toList.flatMap (escape '"') ++ ['"'])

def character (content : Char) : String :=
  String.ofList ('\'' :: escape '\'' content ++ ['\''])

end HubRoutes.Text.Quoted
