import HubRoutes.Json.Value

/-!
# Printing Json

The text of a value over several lines: two blanks for each level of nesting, one item or entry to a
line, and an empty list or object as a pair of brackets.
-/

namespace HubRoutes.Json

/-- The two lower-case hexadecimal digits of a control character's number. -/
def controlDigits (code : Nat) : List Char := [Nat.digitChar (code / 16), Nat.digitChar (code % 16)]

/-- The written form of one character of a text: the quote, the backslash and the controls are
escaped, all other characters stand for themselves. -/
def escape (character : Char) : List Char :=
  if character = '"' then ['\\', '"']
  else if character = '\\' then ['\\', '\\']
  else if character = '\n' then ['\\', 'n']
  else if character = '\r' then ['\\', 'r']
  else if character = '\t' then ['\\', 't']
  else if character = '\x08' then ['\\', 'b']
  else if character = '\x0c' then ['\\', 'f']
  else if character.toNat < 0x20 then ['\\', 'u', '0', '0'] ++ controlDigits character.toNat
  else [character]

def quote (content : String) : List Char := '"' :: content.toList.flatMap escape ++ ['"']

def Number.print : Number → List Char
  | .natural value => Text.Numeral.decimal value
  | .negative magnitude => '-' :: Text.Numeral.decimal magnitude
  | .real value => value.compact

/-- The start of a line at a level of nesting. -/
def lineStart (level : Nat) : List Char := '\n' :: List.replicate (2 * level) ' '

mutual

/-- The text of a value that stands at a level of nesting. -/
def print (level : Nat) : Json → List Char
  | .null => "null".toList
  | .flag value => if value then "true".toList else "false".toList
  | .number value => value.print
  | .text value => quote value
  | .list [] => ['[', ']']
  | .list (item :: rest) =>
    '[' :: lineStart (level + 1) ++ item.print (level + 1) ++ printItems (level + 1) rest
      ++ lineStart level ++ [']']
  | .object [] => ['{', '}']
  | .object ((name, value) :: rest) =>
    '{' :: lineStart (level + 1) ++ quote name ++ ':' :: ' ' :: value.print (level + 1)
      ++ printEntries (level + 1) rest ++ lineStart level ++ ['}']
termination_by structural value => value

/-- The items of a list after the first one. -/
def printItems (level : Nat) : List Json → List Char
  | [] => []
  | item :: rest => ',' :: lineStart level ++ item.print level ++ printItems level rest
termination_by structural items => items

/-- The entries of an object after the first one. -/
def printEntries (level : Nat) : List (String × Json) → List Char
  | [] => []
  | (name, value) :: rest =>
    ',' :: lineStart level ++ quote name ++ ':' :: ' ' :: value.print level
      ++ printEntries level rest
termination_by structural entries => entries

end

/-- A list with items starts with its bracket and its first item. -/
theorem print_list_cons (level : Nat) (item : Json) (rest : List Json) :
    print level (.list (item :: rest)) =
      '[' :: (lineStart (level + 1) ++ (item.print (level + 1) ++
        (printItems (level + 1) rest ++ (lineStart level ++ [']'])))) := by
  simp only [print, List.cons_append, List.append_assoc]

/-- An object with entries starts with its brace and its first entry. -/
theorem print_object_cons (level : Nat) (name : String) (value : Json)
    (rest : List (String × Json)) :
    print level (.object ((name, value) :: rest)) =
      '{' :: (lineStart (level + 1) ++ (quote name ++ (':' :: ' ' :: (value.print (level + 1) ++
        (printEntries (level + 1) rest ++ (lineStart level ++ ['}'])))))) := by
  simp only [print, List.cons_append, List.append_assoc]

def render (value : Json) : String := String.ofList (value.print 0)

end HubRoutes.Json
