import HubRoutes.Yaml.Token

/-!
# Yaml nodes

The nodes of a document: scalars, sequences and mappings, each with its anchor and its tag, and
aliases for nodes that stand elsewhere. How an anchor is named is a parameter: in the text by a
name, later by a number.
-/

namespace HubRoutes.Yaml

/-- A node whose anchors are named by values of a type. -/
inductive Node (ν : Type)
  | alias (target : ν)
  | scalar (anchor : Option ν) (tag : Option Tag) (content : List Char) (style : Style)
  | sequence (anchor : Option ν) (tag : Option Tag) (items : List (Node ν))
  | mapping (anchor : Option ν) (tag : Option Tag) (entries : List (Node ν × Node ν))

namespace Node

variable {ν : Type}

def empty (anchor : Option ν) (tag : Option Tag) : Node ν := .scalar anchor tag [] .plain

mutual

/-- The number of marks that a node makes in a document: one for a scalar or an alias, two for the
ends of a collection. -/
def size : Node ν → Nat
  | .alias _ => 1
  | .scalar .. => 1
  | .sequence _ _ items => 2 + itemsSize items
  | .mapping _ _ entries => 2 + entriesSize entries
termination_by structural node => node

def itemsSize : List (Node ν) → Nat
  | [] => 0
  | item :: rest => item.size + itemsSize rest
termination_by structural items => items

def entriesSize : List (Node ν × Node ν) → Nat
  | [] => 0
  | (key, value) :: rest => key.size + value.size + entriesSize rest
termination_by structural entries => entries

end

end Node

end HubRoutes.Yaml
