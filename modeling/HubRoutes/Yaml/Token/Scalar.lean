import HubRoutes.Text.Numeral
import HubRoutes.Yaml.Character
import HubRoutes.Yaml.Token

/-!
# The text of scalars

A scalar is written plainly, in quotes, or as a block of lines. In the first two forms a line end
and the blanks around it are folded: a single line end becomes a space, of several all but the first
stay. A literal block keeps its line ends, a folded block folds those between lines that do not
start with a blank.
-/

namespace HubRoutes.Yaml

/-! ## Folding -/

/-- The blanks and line ends since the last other character. After the first line end blanks do not
count. An escaped line end has no text. -/
structure Gap where
  blanks : List Char
  lineEnd : Option (List Char)
  moreLineEnds : List Char

namespace Gap

def none : Gap := ⟨[], .none, []⟩

def isNone (gap : Gap) : Bool := gap.blanks.isEmpty && gap.lineEnd.isNone

def hasLineEnd (gap : Gap) : Bool := gap.lineEnd.isSome

def addBlank (gap : Gap) (blank : Char) : Gap :=
  if gap.hasLineEnd then gap else ⟨gap.blanks ++ [blank], gap.lineEnd, gap.moreLineEnds⟩

def addLineEnd (gap : Gap) (lineEnd : Char) : Gap :=
  match gap.lineEnd with
  | .none => ⟨[], some [lineEnd], []⟩
  | some first => ⟨[], some first, gap.moreLineEnds ++ [lineEnd]⟩

/-- The gap that starts with an escaped line end. -/
def escapedLineEnd : Gap := ⟨[], some [], []⟩

/-- What a gap between two characters of a scalar stands for. -/
def text (gap : Gap) : List Char :=
  match gap.lineEnd with
  | .none => gap.blanks
  | some ['\n'] => if gap.moreLineEnds.isEmpty then [' '] else gap.moreLineEnds
  | some lineEnd => lineEnd ++ gap.moreLineEnds

end Gap

/-! ## Plain scalars -/

/-- Whether a character of a flow collection ends a plain scalar in it. -/
def endsPlainInFlow (character : Char) : Bool :=
  character == ',' || character == '[' || character == ']' || character == '{' || character == '}'

/-- Whether a character must not follow a colon within a plain scalar of a flow collection. -/
def clashesAfterColon (character : Char) : Bool := endsPlainInFlow character || character == '?'

/-- What is left of the input once a plain scalar has ended. -/
structure PlainEnd where
  content : List Char
  endsLine : Bool
  rest : List Placed

def PlainEnd.prepend (characters : List Char) (result : PlainEnd) : PlainEnd :=
  ⟨characters ++ result.content, result.endsLine, result.rest⟩

/-- Reads a plain scalar, given the gap before the next character. It ends at a comment, at the
marker of a document, at a colon that is followed by a blank, at the end of its indentation, and in
a flow collection at a character that belongs to the collection. -/
def readPlain (inFlow : Bool) (indent : Int) : Gap → List Placed → Option PlainEnd
  | gap, [] => some ⟨[], gap.hasLineEnd, []⟩
  | gap, first :: rest =>
    let stop : PlainEnd := ⟨[], gap.hasLineEnd, first :: rest⟩
    let character := first.character
    if isBlank character then
      if gap.hasLineEnd && character == '\t' && (first.place.column : Int) < indent then none
      else readPlain inFlow indent (gap.addBlank character) rest
    else if isBreak character then readPlain inFlow indent (gap.addLineEnd character) rest
    else if !gap.isNone && !inFlow && (first.place.column : Int) < indent then some stop
    else if startsDocumentMarker (first :: rest) then some stop
    else if !gap.isNone && character == '#' then some stop
    else if inFlow && character == ':' && startsWith clashesAfterColon rest then none
    else if character == ':' && startsBlank rest then some stop
    else if inFlow && endsPlainInFlow character then some stop
    else (readPlain inFlow indent Gap.none rest).map (·.prepend (gap.text ++ [character]))

/-! ## Quoted scalars -/

/-- The character that the first digits of the input number in base sixteen; surrogates are no
characters. -/
def readCodePoint (digits : Nat) (input : List Placed) : Option Char := do
  let code ← Text.Numeral.read? 16 (characters (input.take digits))
  if (input.take digits).length < digits then none
  else if (0xD800 ≤ code ∧ code ≤ 0xDFFF) ∨ code > 0x10FFFF then none
  else return Char.ofNat code

/-- The character that an escape stands for, given the character behind the backslash and the input
behind that, and the number of further characters that belong to the escape. -/
def readEscape (character : Char) (rest : List Placed) : Option (Char × Nat) :=
  match character with
  | '0' => some ('\x00', 0)
  | 'a' => some ('\x07', 0)
  | 'b' => some ('\x08', 0)
  | 't' => some ('\t', 0)
  | '\t' => some ('\t', 0)
  | 'n' => some ('\n', 0)
  | 'v' => some ('\x0b', 0)
  | 'f' => some ('\x0c', 0)
  | 'r' => some ('\r', 0)
  | 'e' => some ('\x1b', 0)
  | ' ' => some (' ', 0)
  | '"' => some ('"', 0)
  | '/' => some ('/', 0)
  | '\\' => some ('\\', 0)
  | 'N' => some ('\x85', 0)
  | '_' => some ('\xa0', 0)
  | 'L' => some ('\u2028', 0)
  | 'P' => some ('\u2029', 0)
  | 'x' => (readCodePoint 2 rest).map fun code ↦ (code, 2)
  | 'u' => (readCodePoint 4 rest).map fun code ↦ (code, 4)
  | 'U' => (readCodePoint 8 rest).map fun code ↦ (code, 8)
  | _ => none

/-- Reads a quoted scalar behind its opening quote, given the number of characters that are already
read and the gap before the next character. In single quotes a quote is written twice and nothing
else is escaped. The marker of a document must not come first on a line. -/
def readQuoted (single : Bool) : Nat → Gap → List Placed → Option (List Char × List Placed)
  | _, _, [] => none
  | done + 1, gap, _ :: rest => readQuoted single done gap rest
  | 0, gap, first :: rest =>
    let character := first.character
    let resume (done : Nat) (added : List Char) (gap' : Gap) :=
      (readQuoted single done gap' rest).map fun (content, rest) ↦
        (gap.text ++ added ++ content, rest)
    if isBlank character then readQuoted single 0 (gap.addBlank character) rest
    else if isBreak character then readQuoted single 0 (gap.addLineEnd character) rest
    else if startsDocumentMarker (first :: rest) then none
    else if single then
      if character ≠ '\'' then resume 0 [character] Gap.none
      else if startsWith (· == '\'') rest then resume 1 ['\''] Gap.none
      else some (gap.text, rest)
    else if character = '"' then some (gap.text, rest)
    else if character = '\\' then
      match rest with
      | [] => none
      | second :: behind =>
        if isBreak second.character then resume 1 [] Gap.escapedLineEnd
        else do
          let (escaped, width) ← readEscape second.character behind
          resume (width + 1) [escaped] Gap.none
    else resume 0 [character] Gap.none

/-! ## Block scalars -/

/-- What becomes of the line ends behind the last line of a block. -/
inductive Chomping
  | strip
  | clip
  | keep
deriving DecidableEq

def Chomping.ofSign? : Char → Option Chomping
  | '+' => some .keep
  | '-' => some .strip
  | _ => none

/-- What is left of the last line end of a block and of the line ends behind it. -/
def chomp : Chomping → List Char → List Char → List Char
  | .strip, _, _ => []
  | .clip, lineEnd, _ => lineEnd
  | .keep, lineEnd, lineEnds => lineEnd ++ lineEnds

/-- Reads the sign and the indentation in the header of a block, in either order; the indentation is
a digit other than zero, and zero if it is left out. -/
def readBlockHeader (input : List Placed) : Option (Chomping × Nat × List Placed) :=
  let readSign : List Placed → Option Chomping × List Placed := fun input ↦
    match input with
    | first :: rest =>
      match Chomping.ofSign? first.character with
      | some chomping => (some chomping, rest)
      | none => (none, first :: rest)
    | [] => (none, [])
  let readIndent : List Placed → Option (Nat × List Placed) := fun input ↦
    match input with
    | first :: rest =>
      if Text.Numeral.isDigit first.character then
        if first.character == '0' then none else some (first.character.toNat - 48, rest)
      else some (0, first :: rest)
    | [] => some (0, [])
  match readSign input with
  | (some chomping, rest) => do
    let (indent, rest) ← readIndent rest
    return (chomping, indent, rest)
  | (none, rest) => do
    let (indent, rest) ← readIndent rest
    if indent = 0 then return (.clip, 0, rest)
    else
      let (chomping, rest) := readSign rest
      return (chomping.getD .clip, indent, rest)

def finishLine (input : List Placed) : Option (List Placed) :=
  let rest := dropBlanks input
  let rest := if startsWith (· == '#') rest then dropLine rest else rest
  if startsBreak rest then some (rest.drop 1) else none

/-- The line ends in front of a line of a block, the column in which the line starts, and the widest
column reached. -/
structure Breaks where
  lineEnds : List Char
  column : Nat
  widest : Nat
  rest : List Placed

/-- Reads the indentation and the empty lines in front of a line of a block. The indentation is not
yet known if it is given as zero. A tab must not stand in it. -/
def readBreaks (indent : Nat) : Nat → Nat → List Placed → Option Breaks
  | column, widest, [] => some ⟨[], column, max widest column, []⟩
  | column, widest, first :: rest =>
    let inside := indent = 0 ∨ column < indent
    if first.character = ' ' ∧ inside then readBreaks indent (column + 1) widest rest
    else if first.character = '\t' ∧ inside then none
    else if isBreak first.character then
      (readBreaks indent 0 (max widest column) rest).map fun breaks ↦
        { breaks with lineEnds := first.character :: breaks.lineEnds }
    else some ⟨[], column, max widest column, first :: rest⟩

/-- Reads the lines of a block that stand at its indentation. The arguments are the line end of the
line before, the line ends after it, and whether that line starts with a blank. -/
def readBlockLines (folds : Bool) (chomping : Chomping) (indent : Nat) :
    Nat → List Char → Bool → Breaks → Option (List Char × List Placed)
  | 0, _, _, _ => none
  | fuel + 1, lineEnd, startsBlank, breaks =>
    match breaks.rest with
    | first :: rest =>
      if breaks.column = indent then do
        let blank := isBlank first.character
        let joint :=
          if folds ∧ lineEnd = ['\n'] ∧ ¬startsBlank ∧ ¬blank then
            if breaks.lineEnds.isEmpty then [' '] else []
          else lineEnd
        let line := (first :: rest).takeWhile fun cell ↦ !isBreak cell.character
        let behind := dropLine (first :: rest)
        let column := if behind.isEmpty then indent + line.length else 0
        let breaks' ← readBreaks indent column 0 (behind.drop 1)
        let (content, rest) ←
          readBlockLines folds chomping indent fuel (characters (behind.take 1)) blank breaks'
        return (joint ++ breaks.lineEnds ++ characters line ++ content, rest)
      else some (chomp chomping lineEnd breaks.lineEnds, first :: rest)
    | [] => some (chomp chomping lineEnd breaks.lineEnds, [])

/-- Reads a block scalar behind its indicator, given the indentation of the block around it. -/
def readBlock (folds : Bool) (parent : Int) (input : List Placed) :
    Option (List Char × List Placed) := do
  let (chomping, increment, rest) ← readBlockHeader input
  let rest ← finishLine rest
  let given := if increment = 0 then 0 else parent.toNat + increment
  let breaks ← readBreaks given 0 0 rest
  let indent :=
    if given = 0 then max (max breaks.widest (parent + 1).toNat) 1 else given
  readBlockLines folds chomping indent (rest.length + 1) [] false breaks

end HubRoutes.Yaml
