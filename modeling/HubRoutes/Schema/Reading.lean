import HubRoutes.Schema
import HubRoutes.Schema.Fault

/-!
# Reading documents by a schema

A format says how the parts of a value are found in one of its documents. Reading by a schema is the
same for all formats: it goes through a document in the order in which it is written and stops at
the first fault; fields that are missing from a record are noticed at its end, in the order of their
declaration. A key that is written twice in a map has its last value, a field that is written twice
in a record is a fault.
-/

namespace HubRoutes.Schema

/-- How the parts of a value are found in a document. The functions that expect a certain kind of
value take the word for it. -/
structure Format (ν : Type) where
  text : ν → Except Cause String
  chain : ν → Except Cause ChainId
  chainKey : ν → Except Cause ChainId
  flag : ν → Except Cause Bool
  fieldName : ν → Except Cause String
  step : ν → Step
  isAbsent : ν → Except Cause Bool
  items : ν → Except Cause (List ν)
  entries : String → ν → Except Cause (List (ν × ν))
  fieldsInOrder? : ν → Option (List ν)
  loose : Path → ν → Except Fault Loose

variable {ν : Type}

/-- Places the cause of a failed step. -/
def locate {α : Type} (place : Path) (result : Except Cause α) : Except Fault α :=
  result.mapError fun cause ↦ ⟨place, cause⟩

def readItems {α : Type} (read : Path → ν → Except Fault α) (place : Path) :
    Nat → List ν → Except Fault (List α)
  | _, [] => .ok []
  | index, item :: rest => do
    let value ← read (.item index :: place) item
    let values ← readItems read place (index + 1) rest
    return value :: values

def readEntries {κ α : Type} [Ord κ] [Std.TransOrd κ] (step : ν → Step)
    (readKey : ν → Except Cause κ) (read : Path → ν → Except Fault α) (place : Path) :
    OrderedMap κ α → List (ν × ν) → Except Fault (OrderedMap κ α)
  | map, [] => .ok map
  | map, (name, value) :: rest => do
    let key ← locate place (readKey name)
    let result ← read (step name :: place) value
    readEntries step readKey read place (map.insert key result) rest

/-- Goes through the entries of a record and names them. Entries are checked one after the other; an
unknown name is a fault unless the record is open. -/
def nameFields (format : Format ν) (known : List String) (isOpen : Bool)
    (check : String → Path → ν → Except Fault Unit) (place : Path) :
    List String → List (ν × ν) → Except Fault (List (String × Path × ν))
  | _, [] => .ok []
  | seen, (key, value) :: rest => do
    let name ← locate place (format.fieldName key)
    if name ∉ known then
      if isOpen then nameFields format known isOpen check place seen rest
      else .error ⟨place, .unknownField name known⟩
    else if name ∈ seen then .error ⟨place, .duplicateField name⟩
    else
      let valuePlace := format.step key :: place
      check name valuePlace value
      let named ← nameFields format known isOpen check place (name :: seen) rest
      return (name, valuePlace, value) :: named

/-- The word for a record that is written as the list of its fields. -/
def inOrderWord (name : String) (count : Nat) : String :=
  "struct " ++ name ++ " with " ++ Text.Numeral.text count
    ++ (if count = 1 then " element" else " elements")

mutual

def read (format : Format ν) : {α : Type} → Schema α → Path → ν → Except Fault α
  | _, .text, place, node => locate place (format.text node)
  | _, .chain, place, node => locate place (format.chain node)
  | _, .flag, place, node => locate place (format.flag node)
  | _, .address, place, node => do
    let written ← locate place (format.text node)
    match Address.read written with
    | .ok value => .ok value
    | .error fault => .error ⟨place.outer, .badAddress fault⟩
  | _, .list item, place, node => do
    let items ← locate place (format.items node)
    readItems (fun place node ↦ item.read format place node) place 0 items
  | _, .byText value, place, node => do
    let entries ← locate place (format.entries "a map" node)
    readEntries format.step format.text (fun place node ↦ value.read format place node) place ∅
      entries
  | _, .byChain value, place, node => do
    let entries ← locate place (format.entries "a map" node)
    readEntries format.step format.chainKey (fun place node ↦ value.read format place node) place ∅
      entries
  | _, .record name isOpen fields build _, place, node =>
    match format.fieldsInOrder? node with
    | some items => do
      let word := inOrderWord name fields.names.length
      let (values, rest) ← fields.readInOrder format word place 0 items
      if rest.isEmpty then return build values
      else .error ⟨place, .wrongLength items.length "fewer elements in array"⟩
    | none => do
      let entries ← locate place (format.entries ("struct " ++ name) node)
      let check := fun name place node ↦ fields.checkField format name place node
      let named ← nameFields format fields.names isOpen check place [] entries
      return build (← fields.readNamed format place named)
  | _, .extension name base own build _, place, node => do
    let entries ← locate place (format.entries ("struct " ++ name) node)
    let checkOwn := fun name place node ↦ own.checkField format name place node
    let ownNamed ← nameFields format own.names true checkOwn place [] entries
    let ownValues ← own.readNamed format place ownNamed
    let checkBase := fun name place node ↦ base.checkField format name place node
    let baseNamed ← nameFields format base.names true checkBase place [] entries
    return build (← base.readNamed format place baseNamed) ownValues
  | _, .choice name choose _, place, node => do
    match choose (← format.loose place node) with
    | some value => .ok value
    | none => .error ⟨place.outer, .noVariant name⟩
termination_by structural _ schema => schema

/-- Reads the value of a named field for its faults only. -/
def Fields.checkField (format : Format ν) :
    {τ : Type} → Fields τ → String → Path → ν → Except Fault Unit
  | _, .done, _, _, _ => .ok ()
  | _, .required field schema rest, name, place, node =>
    if name = field then (schema.read format place node).map fun _ ↦ ()
    else rest.checkField format name place node
  | _, .defaulted field _ schema rest, name, place, node =>
    if name = field then (schema.read format place node).map fun _ ↦ ()
    else rest.checkField format name place node
  | _, .omittable field schema rest, name, place, node =>
    if name = field then do
      if ← locate place.outer (format.isAbsent node) then return ()
      (schema.read format place node).map fun _ ↦ ()
    else rest.checkField format name place node
termination_by structural _ fields => fields

/-- The values of the fields of a record from its named entries. -/
def Fields.readNamed (format : Format ν) :
    {τ : Type} → Fields τ → Path → List (String × Path × ν) → Except Fault τ
  | _, .done, _, _ => .ok ()
  | _, .required field schema rest, place, named =>
    match named.lookup field with
    | none => .error ⟨place, .missingField field⟩
    | some (valuePlace, node) => do
      let value ← schema.read format valuePlace node
      return (value, ← rest.readNamed format place named)
  | _, .defaulted field fallback schema rest, place, named =>
    match named.lookup field with
    | none => do return (fallback, ← rest.readNamed format place named)
    | some (valuePlace, node) => do
      let value ← schema.read format valuePlace node
      return (value, ← rest.readNamed format place named)
  | _, .omittable field schema rest, place, named =>
    match named.lookup field with
    | none => do return (none, ← rest.readNamed format place named)
    | some (valuePlace, node) => do
      if ← locate place (format.isAbsent node) then
        return (none, ← rest.readNamed format place named)
      let value ← schema.read format valuePlace node
      return (some value, ← rest.readNamed format place named)
termination_by structural _ fields => fields

/-- The values of the fields of a record that is written as their list, and the items that are left
over. -/
def Fields.readInOrder (format : Format ν) (word : String) :
    {τ : Type} → Fields τ → Path → Nat → List ν → Except Fault (τ × List ν)
  | _, .done, _, _, items => .ok ((), items)
  | _, .required _ schema rest, place, index, items =>
    match items with
    | [] => .error ⟨place, .wrongLength index word⟩
    | item :: items => do
      let value ← schema.read format (.item index :: place) item
      let (values, left) ← rest.readInOrder format word place (index + 1) items
      return ((value, values), left)
  | _, .defaulted _ fallback schema rest, place, index, items =>
    match items with
    | [] => do
      let (values, left) ← rest.readInOrder format word place (index + 1) []
      return ((fallback, values), left)
    | item :: items => do
      let value ← schema.read format (.item index :: place) item
      let (values, left) ← rest.readInOrder format word place (index + 1) items
      return ((value, values), left)
  | _, .omittable _ schema rest, place, index, items =>
    match items with
    | [] => do
      let (values, left) ← rest.readInOrder format word place (index + 1) []
      return ((none, values), left)
    | item :: items => do
      if ← locate place (format.isAbsent item) then
        let (values, left) ← rest.readInOrder format word place (index + 1) items
        return ((none, values), left)
      let value ← schema.read format (.item index :: place) item
      let (values, left) ← rest.readInOrder format word place (index + 1) items
      return ((some value, values), left)
termination_by structural _ fields => fields

end

/-- A choice is read from the shapes that it recognises and from no others. -/
theorem read_choice_eq_ok_iff {α : Type} {format : Format ν} {name : String}
    {choose : Loose → Option α} {view : α → Json} {place : Path} {node : ν} {value : α} :
    (Schema.choice name choose view).read format place node = .ok value ↔
      ∃ shape, format.loose place node = .ok shape ∧ choose shape = some value := by
  rw [read]
  cases format.loose place node with
  | error fault => simp [bind, Except.bind]
  | ok shape => cases hchosen : choose shape <;> simp [bind, Except.bind, hchosen]

end HubRoutes.Schema
