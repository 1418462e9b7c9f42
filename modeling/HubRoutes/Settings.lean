import HubRoutes.Chain
import HubRoutes.Number.Layout
import HubRoutes.Number.Literal
import HubRoutes.Text.Quoted

/-!
# Settings

Where the documents are read from, where tables are written, and for which hub chain. Every setting
has a default and a variable of the environment that replaces it. A variable's text is a flag, a
whole number, a floating-point number or else a text, whichever it can be first; each setting takes
what it needs from that value.
-/

namespace HubRoutes

structure Settings where
  routeSpec : String
  tokenRegistry : String
  outputDirectory : String
  hub : ChainId
deriving DecidableEq

namespace Settings

open Number (Binary64 Literal)

def default : Settings := ⟨"config/routes.yaml", "config/tokens.yaml", "src/data", 1⟩

/-- The settings with another hub chain, if one is given. -/
def withHub (settings : Settings) : Option ChainId → Settings
  | some hub => { settings with hub }
  | none => settings

abbrev Environment := List (String × String)

/-! ## Values of variables -/

/-- What a variable says. A variable whose name goes on behind the name of a setting makes the
setting a map or a sequence. -/
inductive Value
  | flag (value : Bool)
  | integer (value : Int)
  | real (value : Binary64)
  | text (content : String)
  | map
  | sequence
deriving DecidableEq

namespace Value

/-- Reads a whole number that fits in sixty-four bits with its sign. -/
def readInteger? (content : List Char) : Option Int :=
  let (negative, digits) := Literal.splitSign content
  (Text.Numeral.read? 10 digits).bind fun magnitude ↦
    if negative then if magnitude ≤ Number.twoTo 63 then some (-(magnitude : Int)) else none
    else if magnitude < Number.twoTo 63 then some magnitude else none

/-- Reads a floating-point number; infinity and the value that is no number have words. -/
def readReal? (content : List Char) : Option Binary64 :=
  let (negative, magnitude) := Literal.splitSign content
  let word := String.ofList (magnitude.map Char.toLower)
  if word = "inf" ∨ word = "infinity" then some (.infinite negative)
  else if word = "nan" then some .notANumber
  else (Literal.read? content).map Literal.toBinary64

/-- The value of a variable's text. -/
def read (content : String) : Value :=
  let characters := content.toList
  let word := String.ofList (characters.map Char.toLower)
  if word = "true" then .flag true
  else if word = "false" then .flag false
  else
    match readInteger? characters with
    | some value => .integer value
    | none =>
      match readReal? characters with
      | some value => .real value
      | none => .text content

def isScalar : Value → Bool
  | .map => false
  | .sequence => false
  | _ => true

def message : Value → String
  | .flag value => "boolean `" ++ (if value then "true" else "false") ++ "`"
  | .integer value => "64-bit integer `" ++ String.ofList (Text.Numeral.signedDecimal value) ++ "`"
  | .real value => "floating point `" ++ String.ofList value.positional ++ "`"
  | .text content => "string " ++ Text.Quoted.text content
  | .map => "map"
  | .sequence => "sequence"

/-- The path that a value stands for: its text, in the layout of its type. -/
def path? : Value → Option String
  | .flag value => some (if value then "true" else "false")
  | .integer value => some (String.ofList (Text.Numeral.signedDecimal value))
  | .real value => some (String.ofList value.positional)
  | .text content => some content
  | .map => none
  | .sequence => none

def greatestChain : ChainId := .ofNatLT (UInt64.size - 1) (by decide)

/-- The chain whose number is nearest to a floating-point number. -/
def nearestChain : Binary64 → ChainId
  | .finite false magnitude => (ChainId.ofNat? magnitude.roundToNat).getD greatestChain
  | .infinite false => greatestChain
  | _ => 0

def chainOfWord? (content : String) : Option ChainId :=
  let word := String.ofList (content.toList.map Char.toLower)
  if ["true", "on", "yes"].contains word then some 1
  else if ["false", "off", "no"].contains word then some 0
  else none

/-- The chain that a value stands for, or what was expected instead. -/
def chain : Value → Except String ChainId
  | .flag value => .ok (if value then 1 else 0)
  | .integer value =>
    match (if value < 0 then none else ChainId.ofNat? value.toNat) with
    | some chain => .ok chain
    | none => .error "an unsigned 64 bit or less integer"
  | .real value => .ok (nearestChain value)
  | .text content =>
    match chainOfWord? content with
    | some chain => .ok chain
    | none => .error "an integer"
  | .map => .error "an integer"
  | .sequence => .error "an integer"

end Value

/-! ## Names of variables -/

/-- A character in lower case, as far as the names of settings have it: besides the letters of ASCII
only the Kelvin sign has one of them as its lower case. -/
def lowerCase (character : Char) : Char :=
  if character = '\u212a' then 'k' else character.toLower

/-- The text with each pair of underscores replaced by a point. -/
def joinParts : List Char → List Char
  | '_' :: '_' :: rest => '.' :: joinParts rest
  | character :: rest => character :: joinParts rest
  | [] => []

/-- The text behind the given start. -/
def behind? : List Char → List Char → Option (List Char)
  | [], text => some text
  | first :: rest, character :: text => if first = character then behind? rest text else none
  | _ :: _, [] => none

/-- The key of a variable. Only variables with the mark of the program have one. -/
def key? (name : String) : Option (List Char) :=
  (behind? "routegen_".toList (name.toList.map lowerCase)).map joinParts

def isPartCharacter (character : Char) : Bool :=
  character.isAlphanum || character == '_' || character == '-' || character == ' '

/-- How a key goes on behind its first part. -/
inductive Continuation
  | none
  | name
  | index
deriving DecidableEq

/-- Whether a text is an index: a number of the machine's size with an optional minus sign and
blanks around it. -/
def isIndex (content : List Char) : Bool :=
  let isBlank := fun character ↦ character == ' ' || character == '\t'
  let trimmed := (content.dropWhile isBlank).reverse.dropWhile isBlank |>.reverse
  match trimmed with
  | '+' :: _ => false
  | digits => (Value.readInteger? digits).isSome

/-- Whether a text consists of names behind points and of indices in brackets. -/
def isContinuation : Nat → List Char → Bool
  | 0, _ => false
  | _ + 1, [] => true
  | fuel + 1, '.' :: rest =>
    !(rest.takeWhile isPartCharacter).isEmpty
      && isContinuation fuel (rest.dropWhile isPartCharacter)
  | fuel + 1, '[' :: rest =>
    match rest.dropWhile (· != ']') with
    | _ :: rest' => isIndex (rest.takeWhile (· != ']')) && isContinuation fuel rest'
    | [] => false
  | _ + 1, _ => false

/-- The first part of a key and how it goes on. A key that is not made of parts is one part. -/
def splitKey (key : List Char) : List Char × Continuation :=
  let first := key.takeWhile isPartCharacter
  match key.dropWhile isPartCharacter with
  | [] => (key, .none)
  | mark :: rest =>
    if !first.isEmpty && isContinuation (key.length + 1) (mark :: rest) then
      (first, if mark = '.' then .name else .index)
    else (key, .none)

/-! ## Settings from the environment -/

/-- The variables of an environment block: entries that end with a zero character, each with an
equals sign between name and text. -/
def Environment.ofBlock (block : String) : Environment :=
  ((block.toList.splitOn '\x00').filter fun entry ↦ entry.contains '=').map fun entry ↦
    (String.ofList (entry.takeWhile (· != '=')),
      String.ofList ((entry.dropWhile (· != '=')).drop 1))

/-- What a variable says about the setting with a key. -/
def valueFor? (setting : String) (entry : String × String) : Option Value := do
  let (first, continuation) := splitKey (← key? entry.1)
  if first = setting.toList then
    match continuation with
    | .none => return Value.read entry.2
    | .name => return .map
    | .index => return .sequence
  else none

/-- What the environment says about the setting with a key; the last variable counts. -/
def lastValue? (setting : String) (environment : Environment) : Option Value :=
  environment.reverse.findSome? (valueFor? setting)

structure Fault where
  setting : String
  value : Value
  expected : String
deriving DecidableEq

def Fault.message (fault : Fault) : String :=
  "invalid type: " ++ fault.value.message ++ ", expected " ++ fault.expected ++ " for key `"
    ++ fault.setting ++ "`" ++ (if fault.value.isScalar then " in the environment" else "")

/-- The path that the environment gives for a setting, or else its default. -/
def readPath (environment : Environment) (setting fallback : String) :
    Except Fault String :=
  match lastValue? setting environment with
  | none => .ok fallback
  | some value =>
    match value.path? with
    | some path => .ok path
    | none => .error ⟨setting, value, "a string"⟩

def readChain (environment : Environment) (setting : String) (fallback : ChainId) :
    Except Fault ChainId :=
  match lastValue? setting environment with
  | none => .ok fallback
  | some value => value.chain.mapError fun expected ↦ ⟨setting, value, expected⟩

/-- The settings that an environment asks for. -/
def ofEnvironment (environment : Environment) : Except Fault Settings := do
  let routeSpec ← readPath environment "route_spec" default.routeSpec
  let tokenRegistry ← readPath environment "token_registry" default.tokenRegistry
  let outputDirectory ← readPath environment "output_dir" default.outputDirectory
  let hub ← readChain environment "hub_chain_id" default.hub
  return { routeSpec, tokenRegistry, outputDirectory, hub }

end Settings

end HubRoutes
