/-!
# Yaml tokens

The tokens of a Yaml text. Indentation and the keys of mappings have no characters of their own;
they appear as the tokens for the start and the end of a block, and for a key.
-/

namespace HubRoutes.Yaml

inductive Style
  | plain
  | singleQuoted
  | doubleQuoted
  | literal
  | folded
deriving DecidableEq

/-- The text of a tag as octets: they need not be the encoding of any characters. -/
abbrev Tag := List UInt8

/-- The octets of a text of ASCII characters. -/
def Tag.ofAscii (text : List Char) : Tag := text.map Char.toUInt8

/-- A tag as written: a handle, which is empty for a verbatim tag, and what follows it. -/
structure WrittenTag where
  handle : List Char
  suffix : Tag
deriving DecidableEq

inductive Token
  | version (major minor : Nat)
  | tagDirective (handle : List Char) (expansion : Tag)
  | documentStart
  | documentEnd
  | blockSequenceStart
  | blockMappingStart
  | blockEnd
  | flowSequenceStart
  | flowSequenceEnd
  | flowMappingStart
  | flowMappingEnd
  | blockEntry
  | flowEntry
  | key
  | value
  | alias (name : List Char)
  | anchor (name : List Char)
  | tag (written : WrittenTag)
  | scalar (content : List Char) (style : Style)
deriving DecidableEq

end HubRoutes.Yaml
