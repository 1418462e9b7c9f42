import HubRoutes.Yaml.Node

/-!
# The nodes of a token list

A text has one document: directives and a start marker, both of which may be left out, one node, and
any number of end markers. In collections a key or a value may be left out and is then the empty
scalar; so may any other node that has an anchor or a tag. A sequence may stand in a mapping at the
indentation of the mapping. Token lists that are built otherwise have no node.
-/

namespace HubRoutes.Yaml

/-! ## Directives -/

/-- What the directives of a document say: whether there is a version, and what handles stand for.
-/
structure Directives where
  hasVersion : Bool
  handles : List (List Char × Tag)

namespace Directives

def none : Directives := ⟨false, []⟩

/-- What the handle of a tag stands for. Two handles have a meaning without a directive. -/
def expansion? (directives : Directives) (handle : List Char) : Option Tag :=
  match directives.handles.lookup handle with
  | some expansion => some expansion
  | .none =>
    if handle = ['!'] then some (Tag.ofAscii ['!'])
    else if handle = ['!', '!'] then some (Tag.ofAscii "tag:yaml.org,2002:".toList)
    else .none

/-- The full text of a tag. -/
def resolve? (directives : Directives) (tag : WrittenTag) : Option Tag :=
  if tag.handle.isEmpty then some tag.suffix
  else (directives.expansion? tag.handle).map fun expansion ↦ expansion ++ tag.suffix

/-- Reads the directives in front of a document. There is at most one version, which is 1.1 or 1.2,
and at most one directive for a handle. -/
def read : Directives → List Token → Option (Directives × List Token)
  | directives, .version major minor :: rest =>
    if directives.hasVersion ∨ major ≠ 1 ∨ (minor ≠ 1 ∧ minor ≠ 2) then .none
    else read { directives with hasVersion := true } rest
  | directives, .tagDirective handle expansion :: rest =>
    if (directives.handles.lookup handle).isSome then .none
    else read { directives with handles := (handle, expansion) :: directives.handles } rest
  | directives, tokens => some (directives, tokens)

end Directives

/-! ## Nodes -/

structure Properties where
  anchor : Option (List Char)
  tag : Option Tag

namespace Properties

def isNone (properties : Properties) : Bool :=
  properties.anchor.isNone && properties.tag.isNone

/-- Reads an anchor and a tag in either order. -/
def read (directives : Directives) : List Token → Option (Properties × List Token)
  | .anchor name :: .tag tag :: rest => do
    return (⟨some name, some (← directives.resolve? tag)⟩, rest)
  | .anchor name :: rest => some (⟨some name, none⟩, rest)
  | .tag tag :: .anchor name :: rest => do
    return (⟨some name, some (← directives.resolve? tag)⟩, rest)
  | .tag tag :: rest => do return (⟨none, some (← directives.resolve? tag)⟩, rest)
  | tokens => some (⟨none, none⟩, tokens)

end Properties

/-- Where a node stands, as far as it decides what the node may be: in a flow collection, in a
block, or in a block where a sequence may have the indentation of what is around it. -/
inductive Surroundings
  | flow
  | block
  | blockMapping
deriving DecidableEq

namespace Node

abbrev Named := Node (List Char)

/-- Whether one of the given tokens comes next. -/
def startsWithAny (stops : List Token) : List Token → Bool
  | [] => false
  | token :: _ => stops.contains token

def itemStops : List Token := [.blockEntry, .blockEnd]

/-- The tokens in front of which an item is left out in a sequence that has the indentation of the
mapping around it. -/
def indentlessItemStops : List Token := [.blockEntry, .key, .value, .blockEnd]

/-- The tokens in front of which a key or a value is left out in a block. -/
def blockEntryStops : List Token := [.key, .value, .blockEnd]

def flowKeyStops : List Token := [.value, .flowEntry, .flowMappingEnd]

def flowValueStops : List Token := [.flowEntry, .flowMappingEnd]

def singleKeyStops : List Token := [.value, .flowEntry, .flowSequenceEnd]

def singleValueStops : List Token := [.flowEntry, .flowSequenceEnd]

/-- The input behind the comma in front of an entry; the first entry has none. -/
def behindComma (isFirst : Bool) (tokens : List Token) : Option (List Token) :=
  if isFirst then some tokens
  else match tokens with
    | .flowEntry :: rest => some rest
    | _ => none

mutual

/-- Reads a node. -/
def read (directives : Directives) : Nat → Surroundings → List Token → Option (Named × List Token)
  | 0, _, _ => none
  | _ + 1, _, .alias name :: rest => some (.alias name, rest)
  | fuel + 1, surroundings, tokens => do
    let (properties, tokens) ← Properties.read directives tokens
    let { anchor, tag } := properties
    let leftOut := if properties.isNone then none else some (Node.empty anchor tag, tokens)
    match tokens with
    | .blockEntry :: _ =>
      if surroundings = .blockMapping then
        let (items, rest) ← readIndentlessItems directives fuel tokens
        return (.sequence anchor tag items, rest)
      else leftOut
    | .scalar content style :: rest =>
      return (.scalar anchor tag content style, rest)
    | .flowSequenceStart :: rest =>
      let (items, rest) ← readFlowItems directives fuel true rest
      return (.sequence anchor tag items, rest)
    | .flowMappingStart :: rest =>
      let (entries, rest) ← readFlowEntries directives fuel true rest
      return (.mapping anchor tag entries, rest)
    | .blockSequenceStart :: rest =>
      if surroundings = .flow then leftOut
      else
        let (items, rest) ← readBlockItems directives fuel rest
        return (.sequence anchor tag items, rest)
    | .blockMappingStart :: rest =>
      if surroundings = .flow then leftOut
      else
        let (entries, rest) ← readBlockEntries directives fuel rest
        return (.mapping anchor tag entries, rest)
    | _ => leftOut

/-- Reads a node that is left out in front of some tokens. -/
def readUnless (directives : Directives) :
    Nat → List Token → Surroundings → List Token → Option (Named × List Token)
  | 0, _, _, _ => none
  | fuel + 1, stops, surroundings, tokens =>
    if startsWithAny stops tokens then some (Node.empty none none, tokens)
    else read directives fuel surroundings tokens

/-- Reads the items of a block sequence and its end. -/
def readBlockItems (directives : Directives) : Nat → List Token → Option (List Named × List Token)
  | 0, _ => none
  | _ + 1, .blockEnd :: rest => some ([], rest)
  | fuel + 1, .blockEntry :: rest => do
    let (item, rest) ← readUnless directives fuel itemStops .block rest
    let (items, rest) ← readBlockItems directives fuel rest
    return (item :: items, rest)
  | _ + 1, _ => none

def readIndentlessItems (directives : Directives) :
    Nat → List Token → Option (List Named × List Token)
  | 0, _ => none
  | fuel + 1, .blockEntry :: rest => do
    let (item, rest) ← readUnless directives fuel indentlessItemStops .block rest
    let (items, rest) ← readIndentlessItems directives fuel rest
    return (item :: items, rest)
  | _ + 1, tokens => some ([], tokens)

def readBlockEntries (directives : Directives) :
    Nat → List Token → Option (List (Named × Named) × List Token)
  | 0, _ => none
  | _ + 1, .blockEnd :: rest => some ([], rest)
  | fuel + 1, .key :: rest => do
    let (key, rest) ← readUnless directives fuel blockEntryStops .blockMapping rest
    let (value, rest) ← readValue directives fuel blockEntryStops .blockMapping rest
    let (entries, rest) ← readBlockEntries directives fuel rest
    return ((key, value) :: entries, rest)
  | _ + 1, _ => none

/-- Reads the value behind its indicator; without an indicator it is left out. -/
def readValue (directives : Directives) :
    Nat → List Token → Surroundings → List Token → Option (Named × List Token)
  | 0, _, _, _ => none
  | fuel + 1, stops, surroundings, .value :: rest =>
    readUnless directives fuel stops surroundings rest
  | _ + 1, _, _, tokens => some (Node.empty none none, tokens)

/-- Reads the items of a flow sequence and its end. An item may be a single entry of a mapping. If
the key of such an entry is left out, so is the token behind it. -/
def readFlowItems (directives : Directives) :
    Nat → Bool → List Token → Option (List Named × List Token)
  | 0, _, _ => none
  | _ + 1, _, .flowSequenceEnd :: rest => some ([], rest)
  | fuel + 1, isFirst, tokens => do
    match ← behindComma isFirst tokens with
    | .flowSequenceEnd :: rest => return ([], rest)
    | .key :: rest =>
      let (key, rest) ←
        if startsWithAny singleKeyStops rest then
          some (Node.empty none none, rest.drop 1)
        else read directives fuel .flow rest
      let (value, rest) ← readValue directives fuel singleValueStops .flow rest
      let (items, rest) ← readFlowItems directives fuel false rest
      return (.mapping none none [(key, value)] :: items, rest)
    | rest =>
      let (item, rest) ← read directives fuel .flow rest
      let (items, rest) ← readFlowItems directives fuel false rest
      return (item :: items, rest)

/-- Reads the entries of a flow mapping and its end. A node without indicator is a key without
value. -/
def readFlowEntries (directives : Directives) :
    Nat → Bool → List Token → Option (List (Named × Named) × List Token)
  | 0, _, _ => none
  | _ + 1, _, .flowMappingEnd :: rest => some ([], rest)
  | fuel + 1, isFirst, tokens => do
    match ← behindComma isFirst tokens with
    | .flowMappingEnd :: rest => return ([], rest)
    | .key :: rest =>
      let (key, rest) ← readUnless directives fuel flowKeyStops .flow rest
      let (value, rest) ← readValue directives fuel flowValueStops .flow rest
      let (entries, rest) ← readFlowEntries directives fuel false rest
      return ((key, value) :: entries, rest)
    | rest =>
      let (key, rest) ← read directives fuel .flow rest
      let (entries, rest) ← readFlowEntries directives fuel false rest
      return ((key, Node.empty none none) :: entries, rest)

end

/-! ## The document -/

def isFinished (tokens : List Token) : Bool := tokens.all (· == .documentEnd)

def readContent (directives : Directives) (tokens : List Token) : Option (Named × List Token) :=
  match tokens with
  | [] | .version .. :: _ | .tagDirective .. :: _ | .documentStart :: _ | .documentEnd :: _ =>
    some (Node.empty none none, tokens)
  | _ => read directives (4 * tokens.length + 8) .block tokens

/-- The node of a token list that holds exactly one document. The empty list holds an empty one. -/
def ofTokens? (tokens : List Token) : Option Named := do
  let (directives, rest) ← Directives.read Directives.none tokens
  let (node, rest) ←
    match rest with
    | .documentStart :: rest => readContent directives rest
    | rest =>
      if rest.length < tokens.length then none
      else if rest.isEmpty then some (Node.empty none none, [])
      else read directives (4 * rest.length + 8) .block rest
  if isFinished rest then return node else none

end Node

end HubRoutes.Yaml
