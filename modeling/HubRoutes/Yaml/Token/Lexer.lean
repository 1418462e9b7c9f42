import HubRoutes.Yaml.Token.Property

/-!
# The tokens of a text

A text is cut into tokens from left to right. Within blocks the indentation opens and closes
sequences and mappings. That something was the key of a mapping shows only at the colon behind it:
until then its place is remembered, for one line and 1024 octets at most, and the key's token is
inserted there. Text that cannot be cut into tokens has none.
-/

namespace HubRoutes.Yaml

/-- Something that becomes a key if a colon follows it. It is required if nothing else could stand
at its indentation. -/
structure PossibleKey where
  place : Place
  number : Nat
  isRequired : Bool

/-- What has been found of a text: the indentations of the open blocks, whether a key may come next,
what may become a key in each open flow collection and outside of them, and the tokens, the last one
first, with their number. -/
structure Lexer where
  indent : Int
  outerIndents : List Int
  keyAllowed : Bool
  key : Option PossibleKey
  outerKeys : List (Option PossibleKey)
  tokens : List Token
  count : Nat

namespace Lexer

def start : Lexer := ⟨-1, [], true, none, [], [], 0⟩

def inFlow (lexer : Lexer) : Bool := !lexer.outerKeys.isEmpty

def emit (lexer : Lexer) (token : Token) : Lexer :=
  { lexer with tokens := token :: lexer.tokens, count := lexer.count + 1 }

def insert (lexer : Lexer) (number : Nat) (token : Token) : Lexer :=
  let later := lexer.count - number
  { lexer with
    tokens := lexer.tokens.take later ++ token :: lexer.tokens.drop later
    count := lexer.count + 1 }

def allowKey (lexer : Lexer) (allowed : Bool) : Lexer := { lexer with keyAllowed := allowed }

/-! ## Indentation -/

/-- Opens a block with its token behind a number of tokens, unless a block of this indentation is
open. In flow collections indentation has no meaning. -/
def openBlock (lexer : Lexer) (column : Nat) (number : Nat) (token : Token) : Lexer :=
  if lexer.inFlow || (column : Int) ≤ lexer.indent then lexer
  else
    { lexer.insert number token with
      indent := column
      outerIndents := lexer.indent :: lexer.outerIndents }

/-- The indentations that are left when those greater than a column are dropped, and how many are
dropped. -/
def dropIndents (column : Int) : Int → List Int → Int × List Int × Nat
  | indent, [] => (indent, [], 0)
  | indent, outer :: outerIndents =>
    if column < indent then
      let (indent, outerIndents, dropped) := dropIndents column outer outerIndents
      (indent, outerIndents, dropped + 1)
    else (indent, outer :: outerIndents, 0)

/-- Closes the blocks that are indented more than a column, unless a flow collection is open. -/
def closeBlocks (lexer : Lexer) (column : Int) : Lexer :=
  if lexer.inFlow then lexer
  else
    let (indent, outerIndents, closed) := dropIndents column lexer.indent lexer.outerIndents
    { lexer with
      indent
      outerIndents
      tokens := List.replicate closed .blockEnd ++ lexer.tokens
      count := lexer.count + closed }

/-! ## Possible keys -/

/-- Gives up what may have become a key; that is a fault if it was required. -/
def dropKey (lexer : Lexer) : Option Lexer :=
  match lexer.key with
  | some key => if key.isRequired then none else some { lexer with key := none }
  | none => some lexer

/-- Remembers that what starts at a place may become a key, if a key is allowed there. -/
def rememberKey (lexer : Lexer) (place : Place) : Option Lexer :=
  if lexer.keyAllowed then do
    let dropped ← lexer.dropKey
    let isRequired := !lexer.inFlow && lexer.indent == (place.column : Int)
    return { dropped with key := some ⟨place, lexer.count, isRequired⟩ }
  else some lexer

/-- The greatest number of octets between the start of a key and the colon behind it. -/
def maxKeySize : Nat := 1024

/-- What may still become a key at a place; that a required key is too far away is a fault. -/
def keyAt (place : Place) : Option PossibleKey → Option (Option PossibleKey)
  | none => some none
  | some key =>
    if key.place.line < place.line || key.place.offset + maxKeySize < place.offset then
      if key.isRequired then none else some none
    else some (some key)

/-- Gives up what can no longer become a key at a place. What is outside of an open flow collection
is tried when the collection has ended: no colon can reach it earlier. -/
def expireKey (lexer : Lexer) (place : Place) : Option Lexer := do
  return { lexer with key := ← keyAt place lexer.key }

/-! ## Tokens -/

/-- The token of a document marker or a directive, in front of which all blocks end. -/
def readBetweenDocuments (lexer : Lexer) (token : Token) : Option Lexer := do
  let lexer ← (lexer.closeBlocks (-1)).dropKey
  return (lexer.allowKey false).emit token

def readFlowStart (lexer : Lexer) (place : Place) (token : Token) : Option Lexer := do
  let lexer ← lexer.rememberKey place
  let opened := { lexer with key := none, outerKeys := lexer.key :: lexer.outerKeys }
  return (opened.allowKey true).emit token

def readFlowEnd (lexer : Lexer) (token : Token) : Option Lexer := do
  let lexer ← lexer.dropKey
  let closed : Lexer :=
    match lexer.outerKeys with
    | [] => lexer
    | key :: outerKeys => { lexer with key, outerKeys }
  return (closed.allowKey false).emit token

def readFlowEntry (lexer : Lexer) : Option Lexer := do
  return ((← lexer.dropKey).allowKey true).emit .flowEntry

/-- Opens a block at an indicator, which must stand where a key may; in flow collections nothing is
opened. -/
def openBlockHere (lexer : Lexer) (place : Place) (token : Token) : Option Lexer :=
  if lexer.inFlow then some lexer
  else if lexer.keyAllowed then some (lexer.openBlock place.column lexer.count token)
  else none

def readBlockEntry (lexer : Lexer) (place : Place) : Option Lexer := do
  let lexer ← (← lexer.openBlockHere place .blockSequenceStart).dropKey
  return (lexer.allowKey true).emit .blockEntry

def readKey (lexer : Lexer) (place : Place) : Option Lexer := do
  let lexer ← (← lexer.openBlockHere place .blockMappingStart).dropKey
  return (lexer.allowKey !lexer.inFlow).emit .key

/-- The colon in front of a value. What is remembered becomes the key. -/
def readValue (lexer : Lexer) (place : Place) : Option Lexer :=
  match lexer.key with
  | some key =>
    let keyed := (lexer.insert key.number .key).openBlock key.place.column key.number
      .blockMappingStart
    some (({ keyed with key := none }.allowKey false).emit .value)
  | none => do
    let lexer ← lexer.openBlockHere place .blockMappingStart
    return (lexer.allowKey !lexer.inFlow).emit .value

/-- A token that may start a key and behind which none can start. -/
def readContent (lexer : Lexer) (place : Place) (token : Token) (keyAllowed : Bool) :
    Option Lexer := do
  return ((← lexer.rememberKey place).emit token).allowKey keyAllowed

/-- A block scalar, behind which a key may start. -/
def readBlockScalar (lexer : Lexer) (content : List Char) (style : Style) : Option Lexer := do
  return ((← lexer.dropKey).allowKey true).emit (.scalar content style)

/-- Whether a character is an indicator, with which no plain scalar starts. -/
def isIndicator (character : Char) : Bool :=
  ['-', '?', ':', ',', '[', ']', '{', '}', '#', '&', '*', '!', '|', '>', '\'', '"', '%', '@',
    '\x60'].contains character

/-- Whether a plain scalar starts with a character, given what follows. Three indicators may start
one if no blank follows. -/
def startsPlain (inFlow : Bool) (character : Char) (rest : List Placed) : Bool :=
  !(isBlank character || isBreak character || isIndicator character)
    || (character == '-' && !startsBlank rest)
    || (!inFlow && (character == '?' || character == ':') && !startsBlank rest)

/-- Reads the token that starts with a character, and gives back the input behind it. -/
def readToken (lexer : Lexer) (first : Placed) (rest : List Placed) :
    Option (Lexer × List Placed) :=
  let place := first.place
  let character := first.character
  let here := first :: rest
  let behind (result : Option Lexer) : Option (Lexer × List Placed) := do return (← result, rest)
  let separated := lexer.inFlow || startsBlank rest
  if place.column = 0 ∧ character = '%' then do
    let (token, rest) ← readDirective rest
    return (← lexer.readBetweenDocuments token, rest)
  else if place.column = 0 ∧ startsMarker '-' here then do
    return (← lexer.readBetweenDocuments .documentStart, rest.drop 2)
  else if place.column = 0 ∧ startsMarker '.' here then do
    return (← lexer.readBetweenDocuments .documentEnd, rest.drop 2)
  else if character = '[' then behind (lexer.readFlowStart place .flowSequenceStart)
  else if character = '{' then behind (lexer.readFlowStart place .flowMappingStart)
  else if character = ']' then behind (lexer.readFlowEnd .flowSequenceEnd)
  else if character = '}' then behind (lexer.readFlowEnd .flowMappingEnd)
  else if character = ',' then behind lexer.readFlowEntry
  else if character = '-' ∧ startsBlank rest then behind (lexer.readBlockEntry place)
  else if character = '?' ∧ separated then behind (lexer.readKey place)
  else if character = ':' ∧ separated then behind (lexer.readValue place)
  else if character = '*' then do
    let (name, rest) ← readAnchor rest
    return (← lexer.readContent place (.alias name) false, rest)
  else if character = '&' then do
    let (name, rest) ← readAnchor rest
    return (← lexer.readContent place (.anchor name) false, rest)
  else if character = '!' then do
    let (tag, rest) ← readTag lexer.inFlow rest
    return (← lexer.readContent place (.tag tag) false, rest)
  else if character = '|' ∧ !lexer.inFlow then do
    let (content, rest) ← readBlock false lexer.indent rest
    return (← lexer.readBlockScalar content .literal, rest)
  else if character = '>' ∧ !lexer.inFlow then do
    let (content, rest) ← readBlock true lexer.indent rest
    return (← lexer.readBlockScalar content .folded, rest)
  else if character = '\'' then do
    let (content, rest) ← readQuoted true 0 Gap.none rest
    return (← lexer.readContent place (.scalar content .singleQuoted) false, rest)
  else if character = '"' then do
    let (content, rest) ← readQuoted false 0 Gap.none rest
    return (← lexer.readContent place (.scalar content .doubleQuoted) false, rest)
  else if startsPlain lexer.inFlow character rest then do
    let plain ← readPlain lexer.inFlow (lexer.indent + 1) Gap.none here
    return (← lexer.readContent place (.scalar plain.content .plain) plain.endsLine, plain.rest)
  else none

/-- The input from the next token on, and whether a key may come there. Spaces, comments and line
ends lead to it, and tabs where no key may come; a byte order mark may start a line. Behind a line
end outside of flow collections a key may come. -/
def findToken (inFlow : Bool) : Bool → Bool → List Placed → Bool × List Placed
  | keyAllowed, _, [] => (keyAllowed, [])
  | keyAllowed, inComment, first :: rest =>
    let character := first.character
    if isBreak character then findToken inFlow (keyAllowed || !inFlow) false rest
    else if inComment then findToken inFlow keyAllowed true rest
    else if character = '#' then findToken inFlow keyAllowed true rest
    else if character = ' ' then findToken inFlow keyAllowed false rest
    else if character = '\t' ∧ (inFlow || !keyAllowed) then findToken inFlow keyAllowed false rest
    else if character = byteOrderMark ∧ first.place.column = 0 then
      findToken inFlow keyAllowed false rest
    else (keyAllowed, first :: rest)

def finish (lexer : Lexer) : Option (List Token) := do
  return (← (lexer.closeBlocks (-1)).dropKey).tokens.reverse

def readTokens : Nat → Lexer → List Placed → Option (List Token)
  | 0, _, _ => none
  | fuel + 1, lexer, input =>
    match findToken lexer.inFlow lexer.keyAllowed false input with
    | (_, []) => lexer.finish
    | (keyAllowed, first :: rest) => do
      let lexer ← (lexer.allowKey keyAllowed).expireKey first.place
      let (lexer, rest) ← (lexer.closeBlocks first.place.column).readToken first rest
      readTokens fuel lexer rest

end Lexer

/-- The tokens of a text, if it can be cut into tokens. -/
def Token.scan (text : List Char) : Option (List Token) :=
  if text.all isAllowed then
    Lexer.readTokens (text.length + 1) Lexer.start (placed Place.start text)
  else none

end HubRoutes.Yaml
