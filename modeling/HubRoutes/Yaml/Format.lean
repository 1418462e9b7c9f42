import HubRoutes.Schema.Reading
import HubRoutes.Yaml.Scalar

/-!
# Yaml as a document format

How the parts of a value are found in a Yaml tree. Any scalar is the text that it is written as.
Numbers and flags have to be plain or literal with the tag of their type. The empty plain scalar is
an empty list or an empty map. A tree that is cut fits nothing.
-/

namespace HubRoutes.Yaml.Tree

open Schema (Cause Fault Format Loose Path Step)

/-- The cause of reaching a limit. -/
def limitCause : Limit → Cause
  | .levels => .tooManyLevels
  | .follows => .tooManyRepetitions

def mismatch (expected : String) : Tree → Cause
  | .scalar tag content style _ =>
    match Scalar.read tag content style with
    | .ok value => .wrongType value.found expected
    | .error cause => cause
  | .sequence .. => .wrongType .sequence expected
  | .mapping .. => .wrongType .map expected
  | .cut limit => limitCause limit

def asText (expected : String) : Tree → Except Cause String
  | .scalar _ content _ _ => .ok (String.ofList content)
  | tree => .error (tree.mismatch expected)

/-- Whether a scalar may be a value of the type that a tag stands for. -/
def mayBe (expected : Tag) (tag : Option Tag) (style : Style) : Bool :=
  style == .plain || (style == .literal && tag == some expected)

def asChain : Tree → Except Cause ChainId
  | .scalar tag content style isInPlace =>
    let value :=
      if mayBe Scalar.integerTag tag style then
        (Scalar.readNatural? content).bind ChainId.ofNat?
      else none
    match value with
    | some identifier => .ok identifier
    | none => .error (mismatch "u64" (.scalar tag content style isInPlace))
  | tree => .error (tree.mismatch "u64")

def asFlag : Tree → Except Cause Bool
  | .scalar tag content style isInPlace =>
    let value := if mayBe Scalar.flagTag tag style then Scalar.readFlag? content else none
    match value with
    | some flag => .ok flag
    | none => .error (mismatch "a boolean" (.scalar tag content style isInPlace))
  | tree => .error (tree.mismatch "a boolean")

def isEmptyScalar : Tree → Bool
  | .scalar _ content style _ => content.isEmpty && style == .plain
  | _ => false

def asItems : Tree → Except Cause (List Tree)
  | .sequence _ items => .ok items
  | tree => if tree.isEmptyScalar then .ok [] else .error (tree.mismatch "a sequence")

def asEntries (expected : String) : Tree → Except Cause (List (Tree × Tree))
  | .mapping _ entries => .ok entries
  | tree => if tree.isEmptyScalar then .ok [] else .error (tree.mismatch expected)

/-- Whether an optional value is absent: a plain scalar that is empty or a word for null. -/
def isAbsent : Tree → Except Cause Bool
  | .scalar tag content style _ =>
    if style ≠ .plain then .ok false
    else
      match tag with
      | none => .ok (content.isEmpty || Scalar.isNullWord content)
      | some tag =>
        if tag = Scalar.nullTag then
          (Scalar.read (some tag) content style).map fun _ ↦ true
        else .ok false
  | .cut limit => .error (limitCause limit)
  | _ => .ok false

/-- The step to the value of a key. -/
def stepOf : Tree → Step
  | .scalar _ content _ true => .key (String.ofList content)
  | _ => .unnamed

def looseScalar : Scalar → Except Cause Loose
  | .natural value => .ok (.natural value)
  | .text content => .ok (.text (String.ofList content))
  | .wideNatural value => .error (.wrongType (.wideUnsigned value) "any value")
  | .wideInteger value => .error (.wrongType (.wideSigned value) "any value")
  | _ => .ok .other

/-- Refuses a tag that names something. -/
def refuseName (place : Path) : Option Tag → Except Fault Unit
  | some tag => if Scalar.isName tag then .error ⟨place, .taggedVariant⟩ else .ok ()
  | none => .ok ()

mutual

/-- The shape of a tree. A tag that names something would be a choice by name and is refused. -/
def loose : Tree → Path → Except Fault Loose
  | .scalar tag content style _, place => do
    refuseName place tag
    let value ← Schema.locate place (Scalar.read tag content style)
    Schema.locate place (looseScalar value)
  | .sequence tag items, place => do
    refuseName place tag
    return .list (← looseItems items 0 place)
  | .mapping tag entries, place => do
    refuseName place tag
    return .map (← looseEntries entries place)
  | .cut limit, place => .error ⟨place, limitCause limit⟩
termination_by structural tree => tree

def looseItems : List Tree → Nat → Path → Except Fault (List Loose)
  | [], _, _ => .ok []
  | item :: rest, index, place => do
    let shape ← item.loose (.item index :: place)
    return shape :: (← looseItems rest (index + 1) place)
termination_by structural items => items

/-- The shapes of the entries of a mapping. -/
def looseEntries : List (Tree × Tree) → Path → Except Fault (List (Loose × Loose))
  | [], _ => .ok []
  | (key, value) :: rest, place => do
    let keyShape ← key.loose place
    let valueShape ← value.loose (stepOf key :: place)
    return (keyShape, valueShape) :: (← looseEntries rest place)
termination_by structural entries => entries

end

/-- How the parts of a value are found in a tree. -/
def format : Format Tree where
  text := asText "a string"
  chain := asChain
  chainKey := asChain
  flag := asFlag
  fieldName := asText "field identifier"
  step := stepOf
  isAbsent := isAbsent
  items := asItems
  entries := asEntries
  fieldsInOrder? _ := none
  loose place tree := tree.loose place

def decode {α : Type} (schema : Schema α) (tree : Tree) : Except Fault α :=
  schema.read format [] tree

end HubRoutes.Yaml.Tree
