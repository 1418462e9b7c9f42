import HubRoutes.Yaml.Node.Anchor
import HubRoutes.Yaml.Node.Reading
import HubRoutes.Yaml.Token.Lexer

/-!
# Yaml trees

What a Yaml text says once every alias is replaced by what it stands for. Trees have at most 128
levels of collections, and aliases are followed only so often as the size of the document admits;
where a tree would go beyond that it is cut.
-/

namespace HubRoutes.Yaml

/-- Why a tree goes no further: it has too many levels, or aliases were followed too often. -/
inductive Limit
  | levels
  | follows
deriving DecidableEq

/-- A document without aliases. A scalar is in place unless it stands for an alias. -/
inductive Tree
  | scalar (tag : Option Tag) (content : List Char) (style : Style) (isInPlace : Bool)
  | sequence (tag : Option Tag) (items : List Tree)
  | mapping (tag : Option Tag) (entries : List (Tree × Tree))
  | cut (limit : Limit)

instance : Inhabited Tree := ⟨.cut .levels⟩

namespace Tree

open Node (Numbered)

/-! ## Equality -/

mutual

def decEq : (first second : Tree) → Decidable (first = second)
  | .scalar tag content style isInPlace, .scalar tag' content' style' isInPlace' =>
    decidable_of_iff
      (tag = tag' ∧ content = content' ∧ style = style' ∧ isInPlace = isInPlace') (by simp)
  | .sequence tag items, .sequence tag' items' =>
    have := decEqItems items items'
    decidable_of_iff (tag = tag' ∧ items = items') (by simp)
  | .mapping tag entries, .mapping tag' entries' =>
    have := decEqEntries entries entries'
    decidable_of_iff (tag = tag' ∧ entries = entries') (by simp)
  | .cut limit, .cut limit' => decidable_of_iff (limit = limit') (by simp)
  | .scalar .., .sequence .. | .scalar .., .mapping .. | .scalar .., .cut _ => isFalse nofun
  | .sequence .., .scalar .. | .sequence .., .mapping .. | .sequence .., .cut _ => isFalse nofun
  | .mapping .., .scalar .. | .mapping .., .sequence .. | .mapping .., .cut _ => isFalse nofun
  | .cut _, .scalar .. | .cut _, .sequence .. | .cut _, .mapping .. => isFalse nofun
termination_by structural first => first

def decEqItems : (first second : List Tree) → Decidable (first = second)
  | [], [] => isTrue rfl
  | item :: rest, item' :: rest' =>
    have := decEq item item'
    have := decEqItems rest rest'
    decidable_of_iff (item = item' ∧ rest = rest') (by simp)
  | [], _ :: _ | _ :: _, [] => isFalse nofun
termination_by structural first => first

def decEqEntries : (first second : List (Tree × Tree)) → Decidable (first = second)
  | [], [] => isTrue rfl
  | (key, value) :: rest, (key', value') :: rest' =>
    have := decEq key key'
    have := decEq value value'
    have := decEqEntries rest rest'
    decidable_of_iff (key = key' ∧ value = value' ∧ rest = rest') (by simp [and_assoc])
  | [], _ :: _ | _ :: _, [] => isFalse nofun
termination_by structural first => first

end

instance : DecidableEq Tree := decEq

/-! ## Expanding aliases -/

def maxLevels : Nat := 128

/-- How often aliases may be followed for each mark of the document. -/
def followsPerMark : Nat := 100

/-- Marks a scalar as standing for an alias. -/
def notInPlace : Tree → Tree
  | .scalar tag content style _ => .scalar tag content style false
  | tree => tree

/-- Expands a node that may be an alias. The number is how often aliases may still be followed. -/
def expandAlias (target : Nat → Option Numbered) (expand : Numbered → Nat → Tree × Nat) :
    Numbered → Nat → Tree × Nat
  | .alias _, 0 => (.cut .follows, 0)
  | .alias number, follows + 1 =>
    match target number with
    | some node =>
      let (tree, follows) := expand node follows
      (tree.notInPlace, follows)
    | none => (.cut .levels, follows)
  | node, follows => expand node follows

def expandItems (expand : Numbered → Nat → Tree × Nat) : List Numbered → Nat → List Tree × Nat
  | [], follows => ([], follows)
  | item :: rest, follows =>
    let (tree, follows) := expand item follows
    let (trees, follows) := expandItems expand rest follows
    (tree :: trees, follows)

def expandEntries (expand : Numbered → Nat → Tree × Nat) :
    List (Numbered × Numbered) → Nat → List (Tree × Tree) × Nat
  | [], follows => ([], follows)
  | (key, value) :: rest, follows =>
    let (key, follows) := expand key follows
    let (value, follows) := expand value follows
    let (trees, follows) := expandEntries expand rest follows
    ((key, value) :: trees, follows)

/-- Expands a node that is no alias, given the number of levels that its tree may have. -/
def expand (target : Nat → Option Numbered) : Nat → Numbered → Nat → Tree × Nat
  | _, .scalar _ tag content style, follows => (.scalar tag content style true, follows)
  | levels + 1, .sequence _ tag items, follows =>
    let (items, follows) := expandItems (expandAlias target (expand target levels)) items follows
    (.sequence tag items, follows)
  | levels + 1, .mapping _ tag entries, follows =>
    let (entries, follows) :=
      expandEntries (expandAlias target (expand target levels)) entries follows
    (.mapping tag entries, follows)
  | _, _, follows => (.cut .levels, follows)

def ofNode (node : Numbered) : Tree :=
  let targets := node.targets
  (expand (fun number ↦ targets.lookup number) maxLevels node (followsPerMark * node.size)).1

/-- The tree of a text, if the text is one well-formed document. -/
def ofText? (text : List Char) : Option Tree := do
  let node ← Node.ofTokens? (← Token.scan text)
  let (numbered, _) ← node.number []
  return ofNode numbered

end Tree

end HubRoutes.Yaml
