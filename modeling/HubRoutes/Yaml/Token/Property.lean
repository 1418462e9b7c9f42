import HubRoutes.Yaml.Token.Scalar

/-!
# Anchors, tags and directives

What a text says about its nodes and about itself: the names of anchors and aliases, tags, and the
directives in front of a document. An octet of a tag may be given by its number behind a percent
sign; the octets that a first one announces have to follow it. A zero octet ends the text of a tag.
-/

namespace HubRoutes.Yaml

/-- The characters up to the first one that lacks a property, and the input behind them. -/
def splitWhile (property : Char → Bool) (input : List Placed) : List Char × List Placed :=
  (characters (input.takeWhile fun first ↦ property first.character),
    input.dropWhile fun first ↦ property first.character)

/-- Whether a character may stand in the name of an anchor, of a handle or of a directive. -/
def isNameCharacter (character : Char) : Bool :=
  character.isAlphanum || character == '_' || character == '-'

/-! ## Anchors and aliases -/

/-- Whether a character other than a blank may follow the name of an anchor. -/
def endsAnchor (character : Char) : Bool :=
  ['?', ':', ',', ']', '}', '%', '@', '\x60'].contains character

def readAnchor (input : List Placed) : Option (List Char × List Placed) :=
  let (name, rest) := splitWhile isNameCharacter input
  if !name.isEmpty && (startsBlank rest || startsWith endsAnchor rest) then some (name, rest)
  else none

/-! ## Tags -/

/-- Whether a character may stand in a tag as itself. In a verbatim tag and in a directive some
indicators of flow collections may, too. -/
def isTagCharacter (verbatim : Bool) (character : Char) : Bool :=
  isNameCharacter character || ";/?:@&=+$.!~*'()".toList.contains character
    || (verbatim && ",[]".toList.contains character)

/-- The number of octets that are due after an octet, given the number that was due before it. -/
def octetsDue? (due octet : Nat) : Option Nat :=
  if 0 < due then if 0x80 ≤ octet ∧ octet < 0xC0 then some (due - 1) else none
  else if octet < 0x80 then some 0
  else if 0xC0 ≤ octet ∧ octet < 0xE0 then some 1
  else if 0xE0 ≤ octet ∧ octet < 0xF0 then some 2
  else if 0xF0 ≤ octet ∧ octet < 0xF8 then some 3
  else none

/-- Reads the octets of a tag, given the number of octets that are due. -/
def readTagText (verbatim : Bool) : Nat → List Placed → Option (Tag × List Placed)
  | due, [] => if due = 0 then some ([], []) else none
  | due, first :: rest =>
    if first.character = '%' then
      match rest with
      | high :: low :: rest => do
        let octet ← Text.Numeral.read? 16 [high.character, low.character]
        let due' ← octetsDue? due octet
        let (content, rest) ← readTagText verbatim due' rest
        return (octet.toUInt8 :: content, rest)
      | _ => none
    else if 0 < due then none
    else if isTagCharacter verbatim first.character then do
      let (content, rest) ← readTagText verbatim 0 rest
      return (first.character.toUInt8 :: content, rest)
    else some ([], first :: rest)

def beforeZero (content : Tag) : Tag := content.takeWhile (· != 0)

def readSomeTagText (verbatim : Bool) (input : List Placed) : Option (Tag × List Placed) := do
  let (content, rest) ← readTagText verbatim 0 input
  if content.isEmpty then none else return (beforeZero content, rest)

/-- Reads a tag that is written in angle brackets, behind the opening one. -/
def readVerbatimTag (input : List Placed) : Option (WrittenTag × List Placed) := do
  let (content, rest) ← readSomeTagText true input
  if startsWith (· == '>') rest then return (⟨[], content⟩, rest.drop 1) else none

/-- Reads a tag that starts with a handle, behind the first exclamation mark. A tag of that mark
alone has no handle. -/
def readShortTag (input : List Placed) : Option (WrittenTag × List Placed) := do
  let (name, rest) := splitWhile isNameCharacter input
  if startsWith (· == '!') rest then
    let (content, rest) ← readSomeTagText false (rest.drop 1)
    return (⟨'!' :: name ++ ['!'], content⟩, rest)
  else
    let (content, rest) ← readTagText false 0 rest
    let suffix := beforeZero (Tag.ofAscii name ++ content)
    if suffix.isEmpty then return (⟨[], Tag.ofAscii ['!']⟩, rest)
    else return (⟨['!'], suffix⟩, rest)

/-- Reads a tag behind its first exclamation mark. -/
def readTag (inFlow : Bool) (input : List Placed) : Option (WrittenTag × List Placed) := do
  let (tag, rest) ←
    if startsWith (· == '<') input then readVerbatimTag (input.drop 1) else readShortTag input
  if startsBlank rest || (inFlow && startsWith (· == ',') rest) then return (tag, rest) else none

/-! ## Directives -/

def readVersionNumber (input : List Placed) : Option (Nat × List Placed) := do
  let (digits, rest) := splitWhile Text.Numeral.isDigit input
  if digits.length ≤ 9 then return (← Text.Numeral.read? 10 digits, rest) else none

def readVersion (input : List Placed) : Option (Token × List Placed) := do
  let (major, rest) ← readVersionNumber input
  if startsWith (· == '.') rest then
    let (minor, rest) ← readVersionNumber (rest.drop 1)
    return (.version major minor, rest)
  else none

def readHandle (input : List Placed) : Option (List Char × List Placed) :=
  if startsWith (· == '!') input then
    let (name, rest) := splitWhile isNameCharacter (input.drop 1)
    if startsWith (· == '!') rest then some ('!' :: name ++ ['!'], rest.drop 1)
    else if name.isEmpty then some (['!'], rest)
    else none
  else none

/-- Reads the handle of a tag directive and what it stands for. -/
def readTagDirective (input : List Placed) : Option (Token × List Placed) := do
  let (handle, rest) ← readHandle input
  if startsWith isBlank rest then
    let (expansion, rest) ← readSomeTagText true (dropBlanks rest)
    if startsBlank rest then return (.tagDirective handle expansion, rest) else none
  else none

/-- Reads a directive with its line, behind the percent sign. -/
def readDirective (input : List Placed) : Option (Token × List Placed) := do
  let (name, rest) := splitWhile isNameCharacter input
  if startsBlank rest then
    let (token, rest) ←
      if name = "YAML".toList then readVersion (dropBlanks rest)
      else if name = "TAG".toList then readTagDirective (dropBlanks rest)
      else none
    return (token, ← finishLine rest)
  else none

end HubRoutes.Yaml
