import HubRoutes.Address.Reading
import HubRoutes.Json.Numeral

/-!
# Why a document does not fit its schema

A fault names the place in the document where it was found and its cause. The place is given by the
steps that lead from the root to it; the root itself is not named.
-/

namespace HubRoutes.Schema

/-- One step into a value: to the entry with a key, to an item of a list, or to the entry of a key
that has no name. -/
inductive Step
  | key (name : String)
  | item (index : Nat)
  | unnamed
deriving DecidableEq

/-- The steps from a place out to the root, the last step first. -/
abbrev Path := List Step

def Path.outer (path : Path) : Path := path.tail

def Path.text : Path → String
  | [] => "."
  | [.key name] => name
  | .key name :: outer => Path.text outer ++ "." ++ name
  | .item index :: outer => Path.text outer ++ "[" ++ Text.Numeral.text index ++ "]"
  | [.unnamed] => "?"
  | .unnamed :: outer => Path.text outer ++ ".?"

/-- What a document holds where something else was expected. -/
inductive Found
  | null
  | unit
  | flag (value : Bool)
  | integer (value : Int)
  | wideUnsigned (value : Nat)
  | wideSigned (value : Int)
  | real (digits : List Char)
  | text (content : String)
  | sequence
  | map
deriving DecidableEq

def Found.message : Found → String
  | .null => "null"
  | .unit => "unit value"
  | .flag value => "boolean `" ++ (if value then "true" else "false") ++ "`"
  | .integer value => "integer `" ++ String.ofList (Text.Numeral.signedDecimal value) ++ "`"
  | .wideUnsigned value =>
    "integer `" ++ Text.Numeral.text value ++ "` as u128"
  | .wideSigned value =>
    "integer `" ++ String.ofList (Text.Numeral.signedDecimal value) ++ "` as i128"
  | .real digits => "floating point `" ++ String.ofList digits ++ "`"
  | .text content => "string " ++ Text.Quoted.text content
  | .sequence => "sequence"
  | .map => "map"

/-- The causes of a fault. The last two are limits of the document format and no matter of the
schema: the value is nested too deeply or is repeated too often. -/
inductive Cause
  | wrongType (found : Found) (expected : String)
  | wrongValue (found : Found) (expected : String)
  | wrongLength (length : Nat) (expected : String)
  | missingField (name : String)
  | unknownField (name : String) (known : List String)
  | duplicateField (name : String)
  | badAddress (fault : Address.Fault)
  | noVariant (typeName : String)
  | taggedVariant
  | keyNotNumber
  | malformedKey (fault : Json.Numeral.Fault)
  | tooManyLevels
  | tooManyRepetitions
deriving DecidableEq

/-- A list of field names as alternatives. -/
def alternatives (names : List String) : String :=
  match names.map fun name ↦ "`" ++ name ++ "`" with
  | [] => "there are no fields"
  | [only] => "expected " ++ only
  | [first, second] => "expected " ++ first ++ " or " ++ second
  | quoted => "expected one of " ++ ", ".intercalate quoted

def Cause.message : Cause → String
  | .wrongType found expected => "invalid type: " ++ found.message ++ ", expected " ++ expected
  | .wrongValue found expected => "invalid value: " ++ found.message ++ ", expected " ++ expected
  | .wrongLength length expected =>
    "invalid length " ++ Text.Numeral.text length ++ ", expected " ++ expected
  | .missingField name => "missing field `" ++ name ++ "`"
  | .unknownField name known => "unknown field `" ++ name ++ "`, " ++ alternatives known
  | .duplicateField name => "duplicate field `" ++ name ++ "`"
  | .badAddress fault => fault.message
  | .noVariant typeName => "data did not match any variant of untagged enum " ++ typeName
  | .taggedVariant => "untagged and internally tagged enums do not support enum input"
  | .keyNotNumber => "invalid value: expected key to be a number in quotes"
  | .malformedKey fault => fault.message
  | .tooManyLevels => "recursion limit exceeded"
  | .tooManyRepetitions => "repetition limit exceeded"

structure Fault where
  place : Path
  cause : Cause
deriving DecidableEq

/-- Whether a cause is a matter of the whole document and not of one place in it. -/
def Cause.isGlobal : Cause → Bool
  | .tooManyLevels => true
  | .tooManyRepetitions => true
  | _ => false

/-- The wording of a fault with its place in front, unless that is the root or does not matter. -/
def Fault.message (fault : Fault) : String :=
  let place := Path.text fault.place
  if place = "." ∨ fault.cause.isGlobal then fault.cause.message
  else place ++ ": " ++ fault.cause.message

end HubRoutes.Schema
