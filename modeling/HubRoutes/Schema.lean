import HubRoutes.Address.Checksum
import HubRoutes.Chain
import HubRoutes.Json.Value

/-!
# Schemas

A schema describes the values of a type as documents hold them: texts, numbers and flags, lists,
maps, and records with named fields. The same description is used to read documents of every format
and to write values; what differs between formats is how the parts of a value are found in it.
-/

namespace HubRoutes

/-- A value seen without a schema, as far as a choice between shapes depends on it. -/
inductive Schema.Loose
  | text (content : String)
  | natural (value : Nat)
  | list (items : List Schema.Loose)
  | map (entries : List (Schema.Loose × Schema.Loose))
  | other

mutual

/-- The description of the documents that stand for the values of a type.

A record is open if it may have fields that the schema does not name. An extension is a record that
has the fields of another record among its own; it is always open. A choice is made by the shape of
a value alone. -/
inductive Schema : Type → Type 1
  | text : Schema String
  | chain : Schema ChainId
  | flag : Schema Bool
  | address : Schema Address
  | list {α : Type} (item : Schema α) : Schema (List α)
  | byText {α : Type} (value : Schema α) : Schema (OrderedMap String α)
  | byChain {α : Type} (value : Schema α) : Schema (OrderedMap ChainId α)
  | record {ρ τ : Type} (name : String) (isOpen : Bool) (fields : Schema.Fields τ)
      (build : τ → ρ) (parts : ρ → τ) : Schema ρ
  | extension {ρ σ τ : Type} (name : String) (base : Schema.Fields σ) (own : Schema.Fields τ)
      (build : σ → τ → ρ) (parts : ρ → σ × τ) : Schema ρ
  | choice {α : Type} (name : String) (choose : Schema.Loose → Option α) (view : α → Json) :
      Schema α

/-- The fields of a record in the order of their declaration. A field is required, or has a value
that stands for its absence, or may be absent or null altogether. -/
inductive Schema.Fields : Type → Type 1
  | done : Schema.Fields Unit
  | required {α τ : Type} (name : String) (schema : Schema α) (rest : Schema.Fields τ) :
      Schema.Fields (α × τ)
  | defaulted {α τ : Type} (name : String) (fallback : α) (schema : Schema α)
      (rest : Schema.Fields τ) : Schema.Fields (α × τ)
  | omittable {α τ : Type} (name : String) (schema : Schema α) (rest : Schema.Fields τ) :
      Schema.Fields (Option α × τ)

end

namespace Schema

def Fields.names : {τ : Type} → Fields τ → List String
  | _, .done => []
  | _, .required name _ rest => name :: rest.names
  | _, .defaulted name _ _ rest => name :: rest.names
  | _, .omittable name _ rest => name :: rest.names

mutual

/-- The document that stands for a value. -/
def write : {α : Type} → Schema α → α → Json
  | _, .text, content => .text content
  | _, .chain, value => .natural value.toNat
  | _, .flag, value => .flag value
  | _, .address, value => .text value.text
  | _, .list item, items => .list (items.map fun value ↦ item.write value)
  | _, .byText value, map =>
    .object (map.entries.map fun entry ↦ (entry.1, value.write entry.2))
  | _, .byChain value, map =>
    .object (map.entries.map fun entry ↦ (entry.1.text, value.write entry.2))
  | _, .record _ _ fields _ parts, value => .object (fields.write (parts value))
  | _, .extension _ base own _ parts, value =>
    .object (base.write (parts value).1 ++ own.write (parts value).2)
  | _, .choice _ _ view, value => view value
termination_by structural _ schema => schema

/-- The entries that stand for the fields of a record; an absent field has none. -/
def Fields.write : {τ : Type} → Fields τ → τ → List (String × Json)
  | _, .done, _ => []
  | _, .required name schema rest, (value, values) =>
    (name, schema.write value) :: rest.write values
  | _, .defaulted name _ schema rest, (value, values) =>
    (name, schema.write value) :: rest.write values
  | _, .omittable _ _ rest, (none, values) => rest.write values
  | _, .omittable name schema rest, (some value, values) =>
    (name, schema.write value) :: rest.write values
termination_by structural _ fields => fields

end

end Schema

end HubRoutes
