/-!
# The characters of a Yaml text

The characters that a text may contain, those that end a line, and the characters of a text together
with their places. Line ends are unified: a carriage return, alone or before a line feed, and the
next-line character all count as a line feed; the two Unicode separators end a line and stay what
they are.
-/

namespace HubRoutes.Yaml

/-- Whether a text may contain the character at all. -/
def isAllowed (character : Char) : Bool :=
  let code := character.toNat
  code == 0x09 || code == 0x0A || code == 0x0D || (0x20 ≤ code && code ≤ 0x7E) || code == 0x85
    || (0xA0 ≤ code && code ≤ 0xD7FF) || (0xE000 ≤ code && code ≤ 0xFFFD) || 0x10000 ≤ code

def isBlank (character : Char) : Bool := character == ' ' || character == '\t'

/-- Whether a character ends a line, once line ends are unified. -/
def isBreak (character : Char) : Bool :=
  character == '\n' || character == '\u2028' || character == '\u2029'

/-- The byte order mark, which may stand at the start of a line. -/
def byteOrderMark : Char := '\ufeff'

/-- A place in a text: its line, its column in the line and the number of octets before it. -/
structure Place where
  line : Nat
  column : Nat
  offset : Nat
deriving DecidableEq

structure Placed where
  character : Char
  place : Place
deriving DecidableEq

namespace Place

def start : Place := ⟨0, 0, 0⟩

/-- The place behind a character that does not end the line and has a number of octets. -/
def next (place : Place) (width : Nat) : Place :=
  ⟨place.line, place.column + 1, place.offset + width⟩

/-- The place behind the end of a line that is written with a number of octets. -/
def nextLine (place : Place) (width : Nat) : Place := ⟨place.line + 1, 0, place.offset + width⟩

end Place

/-- The characters of a text with their places and with unified line ends. -/
def placed : Place → List Char → List Placed
  | _, [] => []
  | place, '\r' :: '\n' :: rest => ⟨'\n', place⟩ :: placed (place.nextLine 2) rest
  | place, character :: rest =>
    let width := character.utf8Size
    if character == '\r' || character == '\x85' then
      ⟨'\n', place⟩ :: placed (place.nextLine width) rest
    else if isBreak character then ⟨character, place⟩ :: placed (place.nextLine width) rest
    else ⟨character, place⟩ :: placed (place.next width) rest

/-- Whether the first of the given characters has a property; nothing follows the last one. -/
def startsWith (property : Char → Bool) : List Placed → Bool
  | [] => false
  | first :: _ => property first.character

def startsBlank : List Placed → Bool
  | [] => true
  | first :: _ => isBlank first.character || isBreak first.character

def startsBreak : List Placed → Bool
  | [] => true
  | first :: _ => isBreak first.character

/-- Whether three times the mark and then a blank, a line end or nothing come first. -/
def startsMarker (mark : Char) : List Placed → Bool
  | first :: second :: third :: rest =>
    first.character == mark && second.character == mark && third.character == mark
      && startsBlank rest
  | _ => false

/-- Whether the marker of a document's start or end comes first on its line. -/
def startsDocumentMarker : List Placed → Bool
  | [] => false
  | first :: rest =>
    first.place.column == 0
      && (startsMarker '-' (first :: rest) || startsMarker '.' (first :: rest))

/-- What follows the spaces and tabs that come first. -/
def dropBlanks (input : List Placed) : List Placed :=
  input.dropWhile fun first ↦ isBlank first.character

/-- What follows the rest of a line. -/
def dropLine (input : List Placed) : List Placed :=
  input.dropWhile fun first ↦ !isBreak first.character

def characters (input : List Placed) : List Char := input.map Placed.character

end HubRoutes.Yaml
