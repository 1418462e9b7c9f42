import HubRoutes.Json.Numeral

/-!
# Reading Json texts

The strict grammar of the format: one value, blanks around it and between its parts, no comma behind
a last item, and at most 128 levels of nesting. The entries of an object are kept as written.
-/

namespace HubRoutes.Json

/-- The four blanks of the format. -/
def isBlank (character : Char) : Bool :=
  character == ' ' || character == '\n' || character == '\t' || character == '\r'

def skipBlanks (input : List Char) : List Char := input.dropWhile isBlank

/-- The number written by four hexadecimal digits. -/
def hexQuad? (first second third fourth : Char) : Option Nat :=
  Text.Numeral.read? 16 [first, second, third, fourth]

/-- The character that a one-letter escape stands for. -/
def unescape? : Char → Option Char
  | '"' => some '"'
  | '\\' => some '\\'
  | '/' => some '/'
  | 'b' => some '\x08'
  | 'f' => some '\x0c'
  | 'n' => some '\n'
  | 'r' => some '\r'
  | 't' => some '\t'
  | _ => none

/-- Reads a text behind its opening quote. A character beyond the basic plane may be escaped as a
pair of surrogates; a surrogate that is not in a pair is refused. -/
def readText? : List Char → Option (List Char × List Char)
  | [] => none
  | '"' :: rest => some ([], rest)
  | '\\' :: 'u' :: a :: b :: c :: d :: rest => do
    let code ← hexQuad? a b c d
    if 0xDC00 ≤ code ∧ code ≤ 0xDFFF then none
    else if 0xD800 ≤ code ∧ code ≤ 0xDBFF then
      match rest with
      | '\\' :: 'u' :: e :: f :: g :: h :: rest' =>
        let low ← hexQuad? e f g h
        if 0xDC00 ≤ low ∧ low ≤ 0xDFFF then
          let (content, after) ← readText? rest'
          return (Char.ofNat (0x10000 + (code - 0xD800) * 0x400 + (low - 0xDC00)) :: content, after)
        else none
      | _ => none
    else
      let (content, after) ← readText? rest
      return (Char.ofNat code :: content, after)
  | '\\' :: letter :: rest => do
    let character ← unescape? letter
    let (content, after) ← readText? rest
    return (character :: content, after)
  | character :: rest =>
    if character.toNat < 0x20 then none
    else do
      let (content, after) ← readText? rest
      return (character :: content, after)

/-- The rest of a text behind a given word. -/
def expect? : List Char → List Char → Option (List Char)
  | [], input => some input
  | _ :: _, [] => none
  | wanted :: more, found :: rest => if wanted = found then expect? more rest else none

mutual

/-- Reads a value. The first number bounds the steps, the second the levels of nesting. -/
def readValue? : Nat → Nat → List Char → Option (Json × List Char)
  | 0, _, _ => none
  | steps + 1, levels, input =>
    match skipBlanks input with
    | [] => none
    | '"' :: rest =>
      (readText? rest).map fun (content, after) ↦ (.text (String.ofList content), after)
    | '[' :: rest =>
      match levels with
      | 0 => none
      | levels + 1 =>
        match skipBlanks rest with
        | ']' :: after => some (.list [], after)
        | rest => (readItems? steps levels rest).map fun (items, after) ↦ (.list items, after)
    | '{' :: rest =>
      match levels with
      | 0 => none
      | levels + 1 =>
        match skipBlanks rest with
        | '}' :: after => some (.object [], after)
        | rest =>
          (readEntries? steps levels rest).map fun (entries, after) ↦ (.object entries, after)
    | 'n' :: rest => (expect? "ull".toList rest).map fun after ↦ (.null, after)
    | 't' :: rest => (expect? "rue".toList rest).map fun after ↦ (.flag true, after)
    | 'f' :: rest => (expect? "alse".toList rest).map fun after ↦ (.flag false, after)
    | rest =>
      match Numeral.read rest with
      | .ok (value, after) => some (.number value, after)
      | .error _ => none

def readItems? : Nat → Nat → List Char → Option (List Json × List Char)
  | 0, _, _ => none
  | steps + 1, levels, input => do
    let (item, rest) ← readValue? steps levels input
    match skipBlanks rest with
    | ',' :: rest =>
      let (items, after) ← readItems? steps levels rest
      return (item :: items, after)
    | ']' :: after => return ([item], after)
    | _ => none

def readEntries? : Nat → Nat → List Char → Option (List (String × Json) × List Char)
  | 0, _, _ => none
  | steps + 1, levels, input => do
    match skipBlanks input with
    | '"' :: rest =>
      let (name, rest) ← readText? rest
      match skipBlanks rest with
      | ':' :: rest =>
        let (value, rest) ← readValue? steps levels rest
        let entry := (String.ofList name, value)
        match skipBlanks rest with
        | ',' :: rest =>
          let (entries, after) ← readEntries? steps levels rest
          return (entry :: entries, after)
        | '}' :: after => return ([entry], after)
        | _ => none
      | _ => none
    | _ => none

end

def read? (input : String) : Option Json :=
  match readValue? (2 * input.length + 2) 128 input.toList with
  | some (value, rest) => if (skipBlanks rest).isEmpty then some value else none
  | none => none

end HubRoutes.Json
