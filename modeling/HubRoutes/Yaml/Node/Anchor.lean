import HubRoutes.Yaml.Node

/-!
# Numbered anchors

An alias stands for the node that had its anchor's name last before the alias. Anchors are numbered
by how many different names there are before them; two anchors have the same number if the first one
used a name again. Of the nodes with one number the last one is meant, wherever the alias stands.
-/

namespace HubRoutes.Yaml.Node

abbrev Numbered := Node Nat

/-- The names of the anchors so far, the latest first, each with its number. -/
abbrev AnchorNumbers := List (List Char × Nat)

namespace AnchorNumbers

/-- Adds the name of an anchor. A name that is used again loses its old number. -/
def add (numbers : AnchorNumbers) (name : List Char) : AnchorNumbers :=
  (name, numbers.length) :: numbers.filter fun entry ↦ entry.1 ≠ name

/-- The number of an anchor, if there is one, and the names with it. -/
def define (numbers : AnchorNumbers) : Option (List Char) → Option Nat × AnchorNumbers
  | none => (none, numbers)
  | some name => (some numbers.length, numbers.add name)

end AnchorNumbers

mutual

/-- Numbers the anchors of a node in the order of the text. An alias for a name that no anchor has
had before it is refused. -/
def number (numbers : AnchorNumbers) : Node (List Char) → Option (Numbered × AnchorNumbers)
  | .alias name => do return (.alias (← numbers.lookup name), numbers)
  | .scalar anchor tag content style =>
    let (anchor, numbers) := numbers.define anchor
    some (.scalar anchor tag content style, numbers)
  | .sequence anchor tag items => do
    let (anchor, numbers) := numbers.define anchor
    let (items, numbers) ← numberItems numbers items
    return (.sequence anchor tag items, numbers)
  | .mapping anchor tag entries => do
    let (anchor, numbers) := numbers.define anchor
    let (entries, numbers) ← numberEntries numbers entries
    return (.mapping anchor tag entries, numbers)
termination_by structural node => node

def numberItems (numbers : AnchorNumbers) :
    List (Node (List Char)) → Option (List Numbered × AnchorNumbers)
  | [] => some ([], numbers)
  | item :: rest => do
    let (item, numbers) ← number numbers item
    let (items, numbers) ← numberItems numbers rest
    return (item :: items, numbers)
termination_by structural items => items

def numberEntries (numbers : AnchorNumbers) :
    List (Node (List Char) × Node (List Char)) →
      Option (List (Numbered × Numbered) × AnchorNumbers)
  | [] => some ([], numbers)
  | (key, value) :: rest => do
    let (key, numbers) ← number numbers key
    let (value, numbers) ← number numbers value
    let (entries, numbers) ← numberEntries numbers rest
    return ((key, value) :: entries, numbers)
termination_by structural entries => entries

end

def anchorEntry (anchor : Option Nat) (node : Numbered) : List (Nat × Numbered) :=
  match anchor with
  | none => []
  | some number => [(number, node)]

mutual

/-- The nodes that have an anchor, in the order of the text. -/
def anchors : Numbered → List (Nat × Numbered)
  | .alias _ => []
  | .scalar anchor tag content style => anchorEntry anchor (.scalar anchor tag content style)
  | .sequence anchor tag items =>
    anchorEntry anchor (.sequence anchor tag items) ++ itemAnchors items
  | .mapping anchor tag entries =>
    anchorEntry anchor (.mapping anchor tag entries) ++ entryAnchors entries
termination_by structural node => node

def itemAnchors : List Numbered → List (Nat × Numbered)
  | [] => []
  | item :: rest => item.anchors ++ itemAnchors rest
termination_by structural items => items

def entryAnchors : List (Numbered × Numbered) → List (Nat × Numbered)
  | [] => []
  | (key, value) :: rest => key.anchors ++ value.anchors ++ entryAnchors rest
termination_by structural entries => entries

end

/-- The nodes that aliases stand for, by number; the first entry of a number counts. -/
def targets (node : Numbered) : List (Nat × Numbered) := node.anchors.reverse

end HubRoutes.Yaml.Node
