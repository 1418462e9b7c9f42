import HubRoutes.Proofs.OrderedMap
import HubRoutes.Yaml.Format

/-!
# Documents in another spelling

Two trees may stand for values that are alike: the entries of a mapping may come in another order, an address
may be written in other letters, a field may be left out or written with the value that stands for its absence,
and a choice may have more than one shape for the same thing. A schema says where a tree may be changed in which
of these ways, and which values are the same except for what was chosen.
-/

namespace HubRoutes

open Schema (Cause Fault Loose Path)

/-! ## Changes of collections -/

namespace Yaml.Tree

/-- The entries of a mapping in another order. No two of its keys are read alike. -/
def Reorders {κ : Type} (readKey : Tree → Except Cause κ) (tree tree' : Tree) : Prop :=
  ∃ tag entries entries', tree = .mapping tag entries ∧ tree' = .mapping tag entries' ∧
    entries.Perm entries' ∧ (entries.map fun entry ↦ readKey entry.1).Nodup

def ChangesItems (change : Tree → Tree → Prop) (tree tree' : Tree) : Prop :=
  ∃ tag items items', tree = .sequence tag items ∧ tree' = .sequence tag items' ∧
    List.Forall₂ (fun item item' ↦ item' = item ∨ change item item') items items'

/-- Some values of a mapping are changed, each as its key permits. -/
def ChangesValues (change : Tree → Tree → Tree → Prop) (tree tree' : Tree) : Prop :=
  ∃ tag entries entries', tree = .mapping tag entries ∧ tree' = .mapping tag entries' ∧
    List.Forall₂ (fun entry entry' ↦ entry'.1 = entry.1 ∧
      (entry'.2 = entry.2 ∨ change entry.1 entry.2 entry'.2)) entries entries'

def RewritesAddress (tree tree' : Tree) : Prop :=
  ∃ written written' address, tree.asText "a string" = .ok written ∧
    tree'.asText "a string" = .ok written' ∧ Address.read written = .ok address ∧
    Address.read written' = .ok address

end Yaml.Tree

namespace Schema

open Yaml (Tree)
open Yaml.Tree (format Reorders ChangesItems ChangesValues RewritesAddress)

/-- A tree stands for the absence of the named field: it is read to the value that the field has when it is
absent, or it is the absence of an optional value. -/
def Fields.StandsForAbsence : {τ : Type} → Fields τ → String → Tree → Prop
  | _, .done, _, _ => False
  | _, .required field _ rest, name, tree =>
    if name = field then False else rest.StandsForAbsence name tree
  | _, .defaulted field fallback schema rest, name, tree =>
    if name = field then ∀ place, schema.read format place tree = .ok fallback
    else rest.StandsForAbsence name tree
  | _, .omittable field _ rest, name, tree =>
    if name = field then tree.isAbsent = .ok true else rest.StandsForAbsence name tree

/-- One more field is written, which was absent. A record without entries may also be an empty scalar. -/
def Fields.WritesOut {τ : Type} (fields : Fields τ) (tree tree' : Tree) : Prop :=
  ∃ tag entries key value name, tree.asEntries "a map" = .ok entries ∧
    tree' = .mapping tag ((key, value) :: entries) ∧ format.fieldName key = .ok name ∧
    (∀ entry ∈ entries, format.fieldName entry.1 ≠ .ok name) ∧ fields.StandsForAbsence name value

section

variable (spells : Loose → Loose → Prop)

mutual

/-- One round of changes to a tree that is read by a schema. It is given which shape may be chosen in place of
another one. -/
def Respells : {α : Type} → Schema α → Tree → Tree → Prop
  | _, .text, _, _ => False
  | _, .chain, _, _ => False
  | _, .flag, _, _ => False
  | _, .address, tree, tree' => RewritesAddress tree tree'
  | _, .list item, tree, tree' => ChangesItems (fun tree tree' ↦ item.Respells tree tree') tree tree'
  | _, .byText value, tree, tree' =>
    Reorders format.text tree tree' ∨
      ChangesValues (fun _ tree tree' ↦ value.Respells tree tree') tree tree'
  | _, .byChain value, tree, tree' =>
    Reorders format.chainKey tree tree' ∨
      ChangesValues (fun _ tree tree' ↦ value.Respells tree tree') tree tree'
  | _, .record _ _ fields _ _, tree, tree' =>
    Reorders format.fieldName tree tree' ∨
      ChangesValues (fun key tree tree' ↦
        ∃ name, format.fieldName key = .ok name ∧ fields.RespellsField name tree tree') tree tree' ∨
      fields.WritesOut tree tree'
  | _, .extension .., _, _ => False
  | _, .choice .., tree, tree' =>
    Reorders format.fieldName tree tree' ∨
      ∃ shape shape', (∀ place, format.loose place tree = .ok shape) ∧
        (∀ place, format.loose place tree' = .ok shape') ∧ spells shape shape'
termination_by structural _ schema => schema

/-- One round of changes to the value of the named field. An optional value stays present or absent. -/
def Fields.RespellsField : {τ : Type} → Fields τ → String → Tree → Tree → Prop
  | _, .done, _, _, _ => False
  | _, .required field schema rest, name, tree, tree' =>
    if name = field then schema.Respells tree tree' else rest.RespellsField name tree tree'
  | _, .defaulted field _ schema rest, name, tree, tree' =>
    if name = field then schema.Respells tree tree' else rest.RespellsField name tree tree'
  | _, .omittable field schema rest, name, tree, tree' =>
    if name = field then tree'.isAbsent = tree.isAbsent ∧ schema.Respells tree tree'
    else rest.RespellsField name tree tree'
termination_by structural _ fields => fields

end

mutual

/-- Two values are the same, except that in a choice one shape is chosen in place of another one. -/
def Alike : {α : Type} → Schema α → α → α → Prop
  | _, .text, value, value' => value' = value
  | _, .chain, value, value' => value' = value
  | _, .flag, value, value' => value' = value
  | _, .address, value, value' => value' = value
  | _, .list item, values, values' => List.Forall₂ (fun value value' ↦ item.Alike value value') values values'
  | _, .byText value, map, map' => map.Pointwise (fun first second ↦ value.Alike first second) map'
  | _, .byChain value, map, map' => map.Pointwise (fun first second ↦ value.Alike first second) map'
  | _, .record _ _ fields build _, whole, whole' =>
    whole' = whole ∨
      ∃ values values', build values = whole ∧ build values' = whole' ∧ fields.AreAlike values values'
  | _, .extension .., whole, whole' => whole' = whole
  | _, .choice _ choose _, value, value' =>
    value' = value ∨
      ∃ shape shape', spells shape shape' ∧ choose shape = some value ∧ choose shape' = some value'
termination_by structural _ schema => schema

def Fields.AreAlike : {τ : Type} → Fields τ → τ → τ → Prop
  | _, .done, _, _ => True
  | _, .required _ schema rest, (value, values), (value', values') =>
    schema.Alike value value' ∧ rest.AreAlike values values'
  | _, .defaulted _ _ schema rest, (value, values), (value', values') =>
    schema.Alike value value' ∧ rest.AreAlike values values'
  | _, .omittable _ schema rest, (value, values), (value', values') =>
    Option.Rel (fun value value' ↦ schema.Alike value value') value value' ∧ rest.AreAlike values values'
termination_by structural _ fields => fields

end

mutual

/-- The names of fields are distinct, and every choice understands the shapes that may be chosen in place of
those that it understands, and maps in any order of their entries. -/
def Understands : {α : Type} → Schema α → Prop
  | _, .text => True
  | _, .chain => True
  | _, .flag => True
  | _, .address => True
  | _, .list item => item.Understands
  | _, .byText value => value.Understands
  | _, .byChain value => value.Understands
  | _, .record _ _ fields _ _ => fields.names.Nodup ∧ fields.Understand
  | _, .extension .. => True
  | _, .choice _ choose _ =>
    (∀ entries entries' value, entries.Perm entries' → choose (.map entries) = some value →
      choose (.map entries') = some value) ∧
    ∀ shape shape' value, spells shape shape' → choose shape = some value →
      ∃ value', choose shape' = some value'
termination_by structural _ schema => schema

def Fields.Understand : {τ : Type} → Fields τ → Prop
  | _, .done => True
  | _, .required _ schema rest => schema.Understands ∧ rest.Understand
  | _, .defaulted _ _ schema rest => schema.Understands ∧ rest.Understand
  | _, .omittable _ schema rest => schema.Understands ∧ rest.Understand
termination_by structural _ fields => fields

end

variable {spells}

section Names

variable {α τ : Type} {field name : String} {fallback : α} {schema : Schema α} {rest : Fields τ}

theorem Fields.standsForAbsence_required_of_ne (hne : name ≠ field) :
    (Fields.required field schema rest).StandsForAbsence name = rest.StandsForAbsence name :=
  funext fun _ ↦ if_neg hne

theorem Fields.standsForAbsence_defaulted_of_ne (hne : name ≠ field) :
    (Fields.defaulted field fallback schema rest).StandsForAbsence name = rest.StandsForAbsence name :=
  funext fun _ ↦ if_neg hne

theorem Fields.standsForAbsence_omittable_of_ne (hne : name ≠ field) :
    (Fields.omittable field schema rest).StandsForAbsence name = rest.StandsForAbsence name :=
  funext fun _ ↦ if_neg hne

theorem Fields.respellsField_required_self :
    (Fields.required field schema rest).RespellsField spells field = schema.Respells spells :=
  funext fun _ ↦ funext fun _ ↦ if_pos rfl

theorem Fields.respellsField_required_of_ne (hne : name ≠ field) :
    (Fields.required field schema rest).RespellsField spells name = rest.RespellsField spells name :=
  funext fun _ ↦ funext fun _ ↦ if_neg hne

theorem Fields.respellsField_defaulted_self :
    (Fields.defaulted field fallback schema rest).RespellsField spells field = schema.Respells spells :=
  funext fun _ ↦ funext fun _ ↦ if_pos rfl

theorem Fields.respellsField_defaulted_of_ne (hne : name ≠ field) :
    (Fields.defaulted field fallback schema rest).RespellsField spells name = rest.RespellsField spells name :=
  funext fun _ ↦ funext fun _ ↦ if_neg hne

theorem Fields.respellsField_omittable_of_ne (hne : name ≠ field) :
    (Fields.omittable field schema rest).RespellsField spells name = rest.RespellsField spells name :=
  funext fun _ ↦ funext fun _ ↦ if_neg hne

end Names

theorem alike_refl : {α : Type} → (schema : Schema α) → (value : α) → schema.Alike spells value value
  | _, .text, _ => rfl
  | _, .chain, _ => rfl
  | _, .flag, _ => rfl
  | _, .address, _ => rfl
  | _, .list item, _ => List.forall₂_same.2 fun value _ ↦ item.alike_refl value
  | _, .byText value, map => .refl value.alike_refl map
  | _, .byChain value, map => .refl value.alike_refl map
  | _, .record .., _ => .inl rfl
  | _, .extension .., _ => rfl
  | _, .choice .., _ => .inl rfl

/-! ## Schemas without choices -/

mutual

/-- Whether a schema leaves nothing to choose. -/
def LeavesNoChoice : {α : Type} → Schema α → Prop
  | _, .text => True
  | _, .chain => True
  | _, .flag => True
  | _, .address => True
  | _, .list item => item.LeavesNoChoice
  | _, .byText value => value.LeavesNoChoice
  | _, .byChain value => value.LeavesNoChoice
  | _, .record _ _ fields _ _ => fields.LeaveNoChoice
  | _, .extension .. => True
  | _, .choice .. => False
termination_by structural _ schema => schema

def Fields.LeaveNoChoice : {τ : Type} → Fields τ → Prop
  | _, .done => True
  | _, .required _ schema rest => schema.LeavesNoChoice ∧ rest.LeaveNoChoice
  | _, .defaulted _ _ schema rest => schema.LeavesNoChoice ∧ rest.LeaveNoChoice
  | _, .omittable _ schema rest => schema.LeavesNoChoice ∧ rest.LeaveNoChoice
termination_by structural _ fields => fields

end

theorem eq_of_rel {α : Type} {R : α → α → Prop} (heq : ∀ value value', R value value' → value' = value)
    {value value' : Option α} (hrelated : Option.Rel R value value') : value' = value := by
  cases hrelated with
  | none => rfl
  | some hrelated => rw [heq _ _ hrelated]

theorem eq_of_forall₂ {α : Type} {R : α → α → Prop} (heq : ∀ value value', R value value' → value' = value)
    {values values' : List α} (hrelated : List.Forall₂ R values values') : values' = values := by
  rw [← List.forall₂_eq_eq_eq]
  exact hrelated.flip.imp fun value' value ↦ heq value value'

mutual

/-- Values that are alike are equal where nothing can be chosen. -/
theorem eq_of_alike : {α : Type} → (schema : Schema α) → schema.LeavesNoChoice → (value value' : α) →
    schema.Alike spells value value' → value' = value
  | _, .text, _, _, _, halike => halike
  | _, .chain, _, _, _, halike => halike
  | _, .flag, _, _, _, halike => halike
  | _, .address, _, _, _, halike => halike
  | _, .list item, hplain, _, _, halike => eq_of_forall₂ (item.eq_of_alike hplain) halike
  | _, .byText value, hplain, _, _, halike => halike.eq (value.eq_of_alike hplain)
  | _, .byChain value, hplain, _, _, halike => halike.eq (value.eq_of_alike hplain)
  | _, .record _ _ fields _ _, hplain, value, value', halike => by
    rcases halike with rfl | ⟨values, values', rfl, rfl, halike⟩
    · rfl
    · rw [fields.eq_of_areAlike hplain values values' halike]
  | _, .extension .., _, _, _, halike => halike
termination_by structural _ schema => schema

theorem Fields.eq_of_areAlike : {τ : Type} → (fields : Fields τ) → fields.LeaveNoChoice →
    (values values' : τ) → fields.AreAlike spells values values' → values' = values
  | _, .done, _, _, _, _ => rfl
  | _, .required _ schema rest, hplain, (_, _), (_, _), halike =>
    Prod.ext (schema.eq_of_alike hplain.1 _ _ halike.1) (rest.eq_of_areAlike hplain.2 _ _ halike.2)
  | _, .defaulted _ _ schema rest, hplain, (_, _), (_, _), halike =>
    Prod.ext (schema.eq_of_alike hplain.1 _ _ halike.1) (rest.eq_of_areAlike hplain.2 _ _ halike.2)
  | _, .omittable _ schema rest, hplain, (_, _), (_, _), halike =>
    Prod.ext (eq_of_rel (schema.eq_of_alike hplain.1) halike.1) (rest.eq_of_areAlike hplain.2 _ _ halike.2)
termination_by structural _ fields => fields

end

end

end Schema

end HubRoutes
