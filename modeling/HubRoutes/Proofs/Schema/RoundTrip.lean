import HubRoutes.Proofs.Schema.Denotation

/-!
# Written documents are read back

A schema writes one of the many documents of a value and reads all of them. So what was written yields the value
again, and the text of what was written is read back as well if it is not nested too deeply.
-/

namespace HubRoutes

namespace Schema

open Json (format)

/-! ## The written document -/

theorem forall₂_map_self {α β : Type} {R : β → α → Prop} {f : α → β} (hrelated : ∀ value, R (f value) value)
    (values : List α) : List.Forall₂ R (values.map f) values := by
  rw [List.forall₂_map_left_iff, List.forall₂_same]
  exact fun value _ ↦ hrelated value

mutual

/-- What a schema that loses nothing writes stands for the value. -/
theorem denotes_write : {α : Type} → (schema : Schema α) → schema.IsLossless → (value : α) →
    schema.Denotes (schema.write value) value
  | _, .text, _, _ => rfl
  | _, .chain, _, _ => rfl
  | _, .flag, _, _ => rfl
  | _, .address, _, _ => rfl
  | _, .list item, hlossless, values => ⟨_, rfl, forall₂_map_self (item.denotes_write hlossless) values⟩
  | _, .byText value, hlossless, map =>
    ⟨_, ⟨_, rfl, .refl _⟩, forall₂_map_self (fun entry ↦ ⟨rfl, value.denotes_write hlossless entry.2⟩) map.entries⟩
  | _, .byChain value, hlossless, map =>
    ⟨_, ⟨_, rfl, .refl _⟩, forall₂_map_self (fun entry ↦ ⟨rfl, value.denotes_write hlossless entry.2⟩) map.entries⟩
  | _, .record _ _ fields _ parts, hlossless, value =>
    ⟨_, ⟨_, rfl, .refl _⟩, fields.denote_write hlossless.2.1 (parts value)⟩
  | _, .extension _ base own _ parts, hlossless, value =>
    ⟨_, _, ⟨_, rfl, .refl _⟩, base.denote_write hlossless.2.1 (parts value).1,
      own.denote_write hlossless.2.2.1 (parts value).2⟩
  | _, .choice .., hlossless, value => hlossless value
termination_by structural _ schema => schema

theorem Fields.denote_write : {τ : Type} → (fields : Fields τ) → fields.AreLossless → (values : τ) →
    fields.Denote (fields.write values) values
  | _, .done, _, _ => rfl
  | _, .required _ schema rest, hlossless, (value, values) =>
    ⟨_, _, rfl, schema.denotes_write hlossless.1 value, rest.denote_write hlossless.2 values⟩
  | _, .defaulted _ _ schema rest, hlossless, (value, values) =>
    ⟨_, _, rfl, schema.denotes_write hlossless.1 value, rest.denote_write hlossless.2 values⟩
  | _, .omittable _ _ rest, hlossless, (none, values) =>
    ⟨_, .inl rfl, rest.denote_write hlossless.2.2 values⟩
  | _, .omittable _ schema rest, hlossless, (some value, values) =>
    ⟨_, _, rfl, hlossless.2.1 value, schema.denotes_write hlossless.1 value, rest.denote_write hlossless.2.2 values⟩
termination_by structural _ fields => fields

end

/-- A written value is read back at every place. -/
def ReadsBack {α : Type} (schema : Schema α) : Prop :=
  ∀ place value, schema.read format place (schema.write value) = .ok value

/-- A schema that loses nothing reads back what it writes. -/
theorem readsBack {α : Type} (schema : Schema α) (hlossless : schema.IsLossless) : schema.ReadsBack :=
  fun place value ↦ schema.readsDenoted hlossless place _ value (schema.denotes_write hlossless value)

theorem readsBack_address : Schema.address.ReadsBack := Schema.address.readsBack trivial

/-! ## The texts of written documents -/

mutual

/-- Whether the written documents of a schema are read back as texts, nested within a number of
levels. -/
def NestsWithin : {α : Type} → Schema α → Nat → Prop
  | _, .text, _ => True
  | _, .chain, _ => True
  | _, .flag, _ => True
  | _, .address, _ => True
  | _, .list item, levels => 0 < levels ∧ item.NestsWithin (levels - 1)
  | _, .byText value, levels => 0 < levels ∧ value.NestsWithin (levels - 1)
  | _, .byChain value, levels => 0 < levels ∧ value.NestsWithin (levels - 1)
  | _, .record _ _ fields _ _, levels => 0 < levels ∧ fields.NestWithin (levels - 1)
  | _, .extension _ base own _ _, levels =>
    0 < levels ∧ base.NestWithin (levels - 1) ∧ own.NestWithin (levels - 1)
  | _, .choice _ _ view, levels => ∀ value, (view value).IsReadable levels
termination_by structural _ schema => schema

/-- Whether the written values of all fields nest within a number of levels. -/
def Fields.NestWithin : {τ : Type} → Fields τ → Nat → Prop
  | _, .done, _ => True
  | _, .required _ schema rest, levels => schema.NestsWithin levels ∧ rest.NestWithin levels
  | _, .defaulted _ _ schema rest, levels => schema.NestsWithin levels ∧ rest.NestWithin levels
  | _, .omittable _ schema rest, levels => schema.NestsWithin levels ∧ rest.NestWithin levels
termination_by structural _ fields => fields

end

mutual

/-- The written document of a value can be printed and read again. -/
theorem isReadable_write : {α : Type} → (schema : Schema α) → {levels : Nat} →
    schema.NestsWithin levels → (value : α) → (schema.write value).IsReadable levels
  | _, .text, _, _, _ => trivial
  | _, .chain, _, _, value => value.toNat_lt
  | _, .flag, _, _, _ => trivial
  | _, .address, _, _, _ => trivial
  | _, .list item, _, hnests, values => by
    refine ⟨hnests.1, Json.areReadableItems_iff.2 ?_⟩
    rw [List.forall_mem_map]
    exact fun value _ ↦ item.isReadable_write hnests.2 value
  | _, .byText value, _, hnests, map => by
    refine ⟨hnests.1, Json.areReadableEntries_iff.2 ?_⟩
    rw [List.forall_mem_map]
    exact fun entry _ ↦ value.isReadable_write hnests.2 entry.2
  | _, .byChain value, _, hnests, map => by
    refine ⟨hnests.1, Json.areReadableEntries_iff.2 ?_⟩
    rw [List.forall_mem_map]
    exact fun entry _ ↦ value.isReadable_write hnests.2 entry.2
  | _, .record _ _ fields _ parts, _, hnests, value =>
    ⟨hnests.1, Json.areReadableEntries_iff.2 (fields.isReadable_write hnests.2 (parts value))⟩
  | _, .extension _ base own _ parts, _, hnests, value => by
    refine ⟨hnests.1, Json.areReadableEntries_iff.2 ?_⟩
    rw [List.forall_mem_append]
    exact ⟨base.isReadable_write hnests.2.1 (parts value).1,
      own.isReadable_write hnests.2.2 (parts value).2⟩
  | _, .choice _ _ _, _, hnests, value => hnests value
termination_by structural _ schema => schema

theorem Fields.isReadable_write : {τ : Type} → (fields : Fields τ) → {levels : Nat} →
    fields.NestWithin levels → (values : τ) →
    ∀ entry ∈ fields.write values, entry.2.IsReadable levels
  | _, .done, _, _, _ => nofun
  | _, .required _ schema rest, _, hnest, (value, values) =>
    List.forall_mem_cons.2
      ⟨schema.isReadable_write hnest.1 value, rest.isReadable_write hnest.2 values⟩
  | _, .defaulted _ _ schema rest, _, hnest, (value, values) =>
    List.forall_mem_cons.2
      ⟨schema.isReadable_write hnest.1 value, rest.isReadable_write hnest.2 values⟩
  | _, .omittable _ _ rest, _, hnest, (none, values) => rest.isReadable_write hnest.2 values
  | _, .omittable _ schema rest, _, hnest, (some value, values) =>
    List.forall_mem_cons.2
      ⟨schema.isReadable_write hnest.1 value, rest.isReadable_write hnest.2 values⟩
termination_by structural _ fields => fields

end

end Schema

end HubRoutes
