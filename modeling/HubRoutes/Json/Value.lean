import HubRoutes.Number.Layout
import HubRoutes.OrderedMap

/-!
# Json values

A data value of the Json format. The entries of an object are kept in the order in which they were
written; the canonical form of a value has every object in ascending order of its names, with the
last value of a name that was written twice.
-/

namespace HubRoutes

/-- A number of the format: whole numbers that fit in sixty-four bits are exact, all others are
binary floating-point numbers. -/
inductive Json.Number
  | natural (value : Nat)
  | negative (magnitude : Nat)
  | real (value : HubRoutes.Number.Binary64)
deriving DecidableEq

inductive Json
  | null
  | flag (value : Bool)
  | number (value : Json.Number)
  | text (value : String)
  | list (items : List Json)
  | object (entries : List (String × Json))

namespace Json

def natural (value : Nat) : Json := .number (.natural value)

instance : Inhabited Json := ⟨.null⟩

mutual

/-- The value with every object in ascending order of its names. -/
def canonical : Json → Json
  | .list items => .list (canonicalItems items)
  | .object entries => .object (OrderedMap.ofList (canonicalEntries entries)).entries
  | .null => .null
  | .flag value => .flag value
  | .number value => .number value
  | .text value => .text value
termination_by structural value => value

def canonicalItems : List Json → List Json
  | [] => []
  | item :: rest => item.canonical :: canonicalItems rest
termination_by structural items => items

def canonicalEntries : List (String × Json) → List (String × Json)
  | [] => []
  | (name, value) :: rest => (name, value.canonical) :: canonicalEntries rest
termination_by structural entries => entries

end

def field? (name : String) : Json → Option Json
  | .object entries => entries.lookup name
  | _ => none

end Json

end HubRoutes
