import HubRoutes.Schema.Reading

/-!
# Json as a document format

How the parts of a value are found in a Json value. A record may also be written as the list of its
fields; a chain that is a key is written as a number in quotes.
-/

namespace HubRoutes.Json

open Schema (Cause Found Format Loose)

/-- What a value is, where something else was expected. -/
def found : Json → Found
  | .null => .null
  | .flag value => .flag value
  | .number (.natural value) => .integer value
  | .number (.negative magnitude) => .integer (-(magnitude : Int))
  | .number (.real value) => .real value.compact
  | .text content => .text content
  | .list _ => .sequence
  | .object _ => .map

def asText (expected : String) : Json → Except Cause String
  | .text content => .ok content
  | value => .error (.wrongType value.found expected)

/-- A number that has to be the identifier of a chain. A negative number is of the right type but
has a wrong value. -/
def asChain : Json → Except Cause ChainId
  | .number (.natural value) =>
    match ChainId.ofNat? value with
    | some identifier => .ok identifier
    | none => .error (.wrongType (.integer value) "u64")
  | .number (.negative magnitude) => .error (.wrongValue (.integer (-(magnitude : Int))) "u64")
  | value => .error (.wrongType value.found "u64")

/-- The key of a map by chain: a text that is a number from its first to its last character. -/
def asChainKey : Json → Except Cause ChainId
  | .text content =>
    match content.toList with
    | [] => .error .keyNotNumber
    | first :: rest =>
      if first = '-' ∨ Text.Numeral.isDigit first then
        match Numeral.read (first :: rest) with
        | .error fault => .error (.malformedKey fault)
        | .ok (value, left) => do
          let identifier ← asChain (.number value)
          if left.isEmpty then return identifier else throw .keyNotNumber
      else .error .keyNotNumber
  | value => .error (.wrongType value.found "u64")

def asFlag : Json → Except Cause Bool
  | .flag value => .ok value
  | value => .error (.wrongType value.found "a boolean")

def asItems : Json → Except Cause (List Json)
  | .list items => .ok items
  | value => .error (.wrongType value.found "a sequence")

def asEntries (expected : String) : Json → Except Cause (List (Json × Json))
  | .object entries => .ok (entries.map fun entry ↦ (.text entry.1, entry.2))
  | value => .error (.wrongType value.found expected)

mutual

/-- The shape of a value. -/
def loose : Json → Loose
  | .text content => .text content
  | .number (.natural value) => .natural value
  | .list items => .list (looseItems items)
  | .object entries => .map (looseEntries entries)
  | .null => .other
  | .flag _ => .other
  | .number (.negative _) => .other
  | .number (.real _) => .other
termination_by structural value => value

def looseItems : List Json → List Loose
  | [] => []
  | item :: rest => item.loose :: looseItems rest
termination_by structural items => items

def looseEntries : List (String × Json) → List (Loose × Loose)
  | [] => []
  | (name, value) :: rest => (.text name, value.loose) :: looseEntries rest
termination_by structural entries => entries

end

/-- How the parts of a value are found in a Json value. -/
def format : Format Json where
  text := asText "a string"
  chain := asChain
  chainKey := asChainKey
  flag := asFlag
  fieldName := asText "field identifier"
  step
    | .text name => .key name
    | _ => .unnamed
  isAbsent
    | .null => .ok true
    | _ => .ok false
  items := asItems
  entries := asEntries
  fieldsInOrder?
    | .list items => some items
    | _ => none
  loose _ value := .ok value.loose

/-- Reads a value by a schema. -/
def decode {α : Type} (schema : Schema α) (value : Json) : Except Schema.Fault α :=
  schema.read format [] value

end HubRoutes.Json
