import HubRoutes.Proofs.Schema.Object

/-!
# What is accepted of a document

If a list is accepted then so is each of its items, and if a record is accepted then so is the value of each of its
fields, whether the record is written as an object or as the list of its fields. The entries of an accepted object
have distinct known names, none of the required ones is missing, and all others are tolerated by an open record
only.
-/

namespace HubRoutes

/-! ## Parts of documents -/

namespace Json

/-- A list has a certain item. -/
def HasItem (document item : Json) : Prop := ∃ items, document = .list items ∧ item ∈ items

/-- A record has a certain value of a field: under its name in an object, or at its place in a list of the fields. -/
def HasField (name : String) (place : Nat) (document value : Json) : Prop :=
  (∃ entries, document = .object entries ∧ (name, value) ∈ entries) ∨
    ∃ items, document = .list items ∧ items[place]? = some value

end Json

namespace Schema

open Json (format)

variable {α ρ σ τ : Type}

/-- Some value is read from a document at some place. -/
def Accepts (schema : Schema α) (document : Json) : Prop :=
  ∃ place value, schema.read format place document = .ok value

/-- A document is accepted as the value of the named field at some place. -/
def Fields.Accept (fields : Fields τ) (name : String) (document : Json) : Prop :=
  ∃ place, fields.checkField format name place document = .ok ()

theorem exists_fault_of_not_accepts {schema : Schema α} {document : Json} (hrefused : ¬schema.Accepts document) :
    ∃ fault, Json.decode schema document = .error fault := by
  cases hread : Json.decode schema document with
  | error fault => exact ⟨fault, rfl⟩
  | ok value => exact absurd ⟨[], value, hread⟩ hrefused

/-! ## Fields by name -/

section Names

variable {name field : String} {schema : Schema α} {rest : Fields τ} {document : Json}

@[simp] theorem Fields.accept_required_self : (required field schema rest).Accept field document ↔
    schema.Accepts document := by
  simp [Accept, Accepts, checkField, map_unit_eq_ok_iff]

@[simp] theorem Fields.accept_defaulted_self {fallback : α} :
    (defaulted field fallback schema rest).Accept field document ↔ schema.Accepts document := by
  simp [Accept, Accepts, checkField, map_unit_eq_ok_iff]

@[simp] theorem Fields.accept_required_of_ne (hne : name ≠ field) :
    (required field schema rest).Accept name document ↔ rest.Accept name document := by
  simp [Accept, checkField, hne]

@[simp] theorem Fields.accept_defaulted_of_ne {fallback : α} (hne : name ≠ field) :
    (defaulted field fallback schema rest).Accept name document ↔ rest.Accept name document := by
  simp [Accept, checkField, hne]

@[simp] theorem Fields.accept_omittable_of_ne (hne : name ≠ field) :
    (omittable field schema rest).Accept name document ↔ rest.Accept name document := by
  simp [Accept, checkField, hne]

theorem eq_null_of_isAbsent (habsent : format.isAbsent document = .ok true) : document = .null := by
  cases document with
  | null => rfl
  | _ => cases habsent

/-- An optional field is null or has a value of its kind. -/
theorem Fields.accept_omittable_self : (omittable field schema rest).Accept field document ↔
    document = .null ∨ schema.Accepts document := by
  simp only [Accept, checkField, if_true, bind_eq_ok_iff, locate_eq_ok_iff, Accepts]
  constructor
  · rintro ⟨place, isAbsent, habsent, hcheck⟩
    cases isAbsent with
    | true => exact .inl (eq_null_of_isAbsent habsent)
    | false => exact .inr ⟨place, (map_unit_eq_ok_iff _).1 hcheck⟩
  · rintro (rfl | ⟨place, value, hread⟩)
    · exact ⟨[], true, rfl, rfl⟩
    · cases document with
      | null => exact ⟨place, true, rfl, rfl⟩
      | _ => exact ⟨place, false, rfl, (map_unit_eq_ok_iff _).2 ⟨value, hread⟩⟩

end Names

/-! ## Lists and records -/

theorem Accepts.item {schema : Schema α} {document item : Json} (haccepts : (Schema.list schema).Accepts document)
    (hitem : document.HasItem item) : schema.Accepts item := by
  obtain ⟨place, values, hread⟩ := haccepts
  obtain ⟨items, rfl, hmem⟩ := hitem
  have hitems : readItems (fun place document ↦ schema.read format place document) place 0 items = .ok values := hread
  exact exists_read_of_mem_items hitems item hmem

/-- The entries of an object fit the fields of a record: each has the name of a field that accepts its value, unless
other names are tolerated; no field comes twice, and none is missing that is required. -/
structure Fields.Fit (fields : Fields τ) (isOpen : Bool) (entries : List (String × Json)) : Prop where
  known : ∀ entry ∈ entries, entry.1 ∉ fields.names → isOpen = true
  accepted : ∀ entry ∈ entries, entry.1 ∈ fields.names → fields.Accept entry.1 entry.2
  distinct : ((entries.filter fun entry ↦ entry.1 ∈ fields.names).map Prod.fst).Nodup
  complete : ∀ name ∈ fields.requiredNames, ∃ document, (name, document) ∈ entries

theorem Fields.ReadsObject.fit {fields : Fields τ} {isOpen : Bool} {place : Path} {entries : List (String × Json)}
    {values : τ} (hreads : fields.ReadsObject isOpen place entries values) : fields.Fit isOpen entries := by
  refine ⟨hreads.known, fun entry hentry hknown ↦ ⟨_, hreads.checked entry hentry hknown⟩, hreads.distinct,
    fun name hname ↦ ?_⟩
  obtain ⟨found, hfound⟩ := fields.exists_lookup_of_readNamed hreads.read name hname
  obtain ⟨before, after, hsplit, -⟩ := List.lookup_eq_some_iff.1 hfound
  obtain ⟨entry, hentry, hsame⟩ := List.mem_map.1 (hsplit ▸ List.mem_append_cons_self)
  obtain rfl : entry.1 = name := congrArg Prod.fst hsame
  exact ⟨entry.2, (List.mem_filter.1 hentry).1⟩

/-- A value that comes later in a list of fields is not taken for that of the first field. -/
theorem ne_of_mem_zip {name : String} {names : List String} (hname : name ∉ names) {items : List Json}
    {pair : String × Json} (hpair : pair ∈ names.zip items) : pair.1 ≠ name :=
  ne_of_mem_of_not_mem (List.of_mem_zip hpair).1 hname

/-- The items of a list of fields are accepted as the values of the fields, in their order. -/
theorem Fields.accept_of_readInOrder {word : String} {place : Path} : {τ : Type} → (fields : Fields τ) →
    fields.names.Nodup → {index : Nat} → {items left : List Json} → {values : τ} →
    fields.readInOrder format word place index items = .ok (values, left) →
    ∀ pair ∈ fields.names.zip items, fields.Accept pair.1 pair.2
  | _, .done, _, _, _, _, _, _ => nofun
  | _, .required _ _ rest, hnames, _, items, _, _, hread => by
    obtain ⟨hname, hrest⟩ := List.nodup_cons.1 hnames
    cases items with
    | nil => simp
    | cons item items =>
      simp only [readInOrder, bind_eq_ok_iff] at hread
      obtain ⟨value, hvalue, ⟨values, left⟩, hlater, -⟩ := hread
      refine List.forall_mem_cons.2 ⟨accept_required_self.2 ⟨_, value, hvalue⟩, fun pair hpair ↦ ?_⟩
      rw [accept_required_of_ne (ne_of_mem_zip hname hpair)]
      exact rest.accept_of_readInOrder hrest hlater pair hpair
  | _, .defaulted _ _ _ rest, hnames, _, items, _, _, hread => by
    obtain ⟨hname, hrest⟩ := List.nodup_cons.1 hnames
    cases items with
    | nil => simp
    | cons item items =>
      simp only [readInOrder, bind_eq_ok_iff] at hread
      obtain ⟨value, hvalue, ⟨values, left⟩, hlater, -⟩ := hread
      refine List.forall_mem_cons.2 ⟨accept_defaulted_self.2 ⟨_, value, hvalue⟩, fun pair hpair ↦ ?_⟩
      rw [accept_defaulted_of_ne (ne_of_mem_zip hname hpair)]
      exact rest.accept_of_readInOrder hrest hlater pair hpair
  | _, .omittable _ schema rest, hnames, index, items, _, _, hread => by
    obtain ⟨hname, hrest⟩ := List.nodup_cons.1 hnames
    cases items with
    | nil => simp
    | cons item items =>
      simp only [readInOrder, bind_eq_ok_iff, locate_eq_ok_iff] at hread
      obtain ⟨isAbsent, habsent, hread⟩ := hread
      have hitem : (item = .null ∨ schema.Accepts item) ∧ ∃ values left,
          rest.readInOrder format word place (index + 1) items = .ok (values, left) := by
        cases isAbsent with
        | true =>
          simp only [if_true, bind_eq_ok_iff] at hread
          obtain ⟨⟨values, left⟩, hlater, -⟩ := hread
          exact ⟨.inl (eq_null_of_isAbsent habsent), values, left, hlater⟩
        | false =>
          simp only [Bool.false_eq_true, if_false, bind_eq_ok_iff] at hread
          obtain ⟨value, hvalue, ⟨values, left⟩, hlater, -⟩ := hread
          exact ⟨.inr ⟨_, value, hvalue⟩, values, left, hlater⟩
      obtain ⟨haccepts, values, left, hlater⟩ := hitem
      refine List.forall_mem_cons.2 ⟨accept_omittable_self.2 haccepts, fun pair hpair ↦ ?_⟩
      rw [accept_omittable_of_ne (ne_of_mem_zip hname hpair)]
      exact rest.accept_of_readInOrder hrest hlater pair hpair

section Records

variable {word : String} {isOpen : Bool} {fields : Fields τ} {build : τ → ρ} {parts : ρ → τ}

theorem Accepts.fit_record {entries : List (String × Json)}
    (haccepts : (Schema.record word isOpen fields build parts).Accepts (.object entries)) :
    fields.Fit isOpen entries := by
  obtain ⟨place, value, hread⟩ := haccepts
  obtain ⟨values, hreads, -⟩ := read_record_object_iff.1 hread
  exact hreads.fit

/-- Each field of an accepted record has an accepted value, however the record is written. -/
theorem Accepts.field (hnames : fields.names.Nodup) {document value : Json}
    (haccepts : (Schema.record word isOpen fields build parts).Accepts document) {name : String} {index : Nat}
    (hname : fields.names[index]? = some name) (hfield : document.HasField name index value) :
    fields.Accept name value := by
  obtain ⟨entries, rfl, hentry⟩ | ⟨items, rfl, hitem⟩ := hfield
  · exact haccepts.fit_record.accepted _ hentry (List.mem_of_getElem? hname)
  · obtain ⟨place, result, hread⟩ := haccepts
    have hinOrder : format.fieldsInOrder? (.list items) = some items := rfl
    rw [read, hinOrder] at hread
    simp only [bind_eq_ok_iff] at hread
    obtain ⟨⟨values, left⟩, hvalues, -⟩ := hread
    have hpair : (name, value) ∈ fields.names.zip items :=
      List.mem_of_getElem? (List.getElem?_zip_eq_some.2 ⟨hname, hitem⟩)
    exact fields.accept_of_readInOrder hnames hvalues _ hpair

theorem Accepts.fit_extension {base : Fields σ} {build : σ → τ → ρ} {parts : ρ → σ × τ}
    {entries : List (String × Json)}
    (haccepts : (Schema.extension word base fields build parts).Accepts (.object entries)) :
    base.Fit true entries ∧ fields.Fit true entries := by
  obtain ⟨place, value, hread⟩ := haccepts
  obtain ⟨baseValues, ownValues, hbase, hown, -⟩ := read_extension_object_iff.1 hread
  exact ⟨hbase.fit, hown.fit⟩

end Records

end Schema

end HubRoutes
