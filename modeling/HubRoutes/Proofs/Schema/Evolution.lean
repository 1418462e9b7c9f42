import HubRoutes.Proofs.Schema.Acceptance

/-!
# Documents that grow and shrink

An open record is read to the same value after an entry has been added that none of its fields is named like, and
so is every document around it. A closed record is refused then, and a record is refused that has lost an entry it
requires; so is every document around these.
-/

namespace HubRoutes

/-! ## Changes of documents -/

namespace Json

/-- An object gains an entry whose name is none of the known ones. -/
def GainsEntry (known : List String) (document document' : Json) : Prop :=
  ∃ front back name value, document = .object (front ++ back) ∧ document' = .object (front ++ (name, value) :: back) ∧
    name ∉ known

/-- An object loses an entry with one of some names. -/
def LosesEntry (names : List String) (document document' : Json) : Prop :=
  ∃ front back name value, document = .object (front ++ (name, value) :: back) ∧ document' = .object (front ++ back) ∧
    name ∈ names

/-- The value of one entry of an object is changed, and its name stays. -/
def ChangesField (name : String) (change : Json → Json → Prop) (document document' : Json) : Prop :=
  ∃ front back value value', document = .object (front ++ (name, value) :: back) ∧
    document' = .object (front ++ (name, value') :: back) ∧ change value value'

/-- One item of a list is changed. -/
def ChangesOneItem (change : Json → Json → Prop) (document document' : Json) : Prop :=
  ∃ front back item item', document = .list (front ++ item :: back) ∧ document' = .list (front ++ item' :: back) ∧
    change item item'

end Json

namespace Schema

open Json (format GainsEntry LosesEntry ChangesField ChangesOneItem)

variable {α ρ σ τ : Type}

/-- The second document is read to whatever the first is read to. -/
def Keeps (schema : Schema α) (document document' : Json) : Prop :=
  ∀ place value, schema.read format place document = .ok value → schema.read format place document' = .ok value

/-- A change makes accepted documents unacceptable. -/
def Ruins (schema : Schema α) (change : Json → Json → Prop) : Prop :=
  ∀ document document', change document document' → schema.Accepts document → ¬schema.Accepts document'

/-! ## Lists -/

section Lists

variable {schema : Schema α} {change : Json → Json → Prop} {document document' : Json}

theorem Keeps.readItems {item item' : Json} (hitem : schema.Keeps item item') {place : Path} {index : Nat}
    {front back : List Json} {values : List α}
    (hread : readItems (fun place document ↦ schema.read format place document) place index (front ++ item :: back) =
      .ok values) :
    Schema.readItems (fun place document ↦ schema.read format place document) place index (front ++ item' :: back) =
      .ok values := by
  induction front generalizing index values with
  | nil =>
    simp only [List.nil_append, Schema.readItems, bind_eq_ok_iff] at hread ⊢
    obtain ⟨value, hvalue, hlater⟩ := hread
    exact ⟨value, hitem _ _ hvalue, hlater⟩
  | cons first front ih =>
    simp only [List.cons_append, Schema.readItems, bind_eq_ok_iff] at hread ⊢
    obtain ⟨value, hvalue, values, hvalues, hresult⟩ := hread
    exact ⟨value, hvalue, values, ih hvalues, hresult⟩

theorem keeps_list (hchange : ChangesOneItem change document document')
    (hkeeps : ∀ item item', change item item' → schema.Keeps item item') :
    (Schema.list schema).Keeps document document' := by
  obtain ⟨front, back, item, item', rfl, rfl, hitem⟩ := hchange
  intro place values hread
  have hlist (items : List Json) : (Schema.list schema).read format place (.list items) =
      Schema.readItems (fun place document ↦ schema.read format place document) place 0 items := rfl
  rw [hlist] at hread ⊢
  exact (hkeeps item item' hitem).readItems hread

theorem ruins_list (hruins : schema.Ruins change) : (Schema.list schema).Ruins (ChangesOneItem change) := by
  rintro _ _ ⟨front, back, item, item', rfl, rfl, hitem⟩ haccepts haccepts'
  exact hruins item item' hitem (haccepts.item ⟨_, rfl, by simp⟩) (haccepts'.item ⟨_, rfl, by simp⟩)

end Lists

/-! ## Entries that are gained -/

/-- An entry with an unknown name is passed over by an open record. -/
theorem Fields.ReadsObject.gain {fields : Fields τ} {place : Path} {front back : List (String × Json)} {name : String}
    {values : τ} (hreads : fields.ReadsObject true place (front ++ back) values) (hname : name ∉ fields.names)
    (value : Json) : fields.ReadsObject true place (front ++ (name, value) :: back) values := by
  have hfilter : ((front ++ (name, value) :: back).filter fun entry ↦ entry.1 ∈ fields.names) =
      (front ++ back).filter fun entry ↦ entry.1 ∈ fields.names := by
    rw [List.filter_append, List.filter_cons_of_neg (by simpa using hname), List.filter_append]
  refine ⟨fun _ _ _ ↦ rfl, fun entry hentry hknown ↦ hreads.checked entry ?_ hknown, ?_, ?_⟩
  · have hfiltered : entry ∈ (front ++ (name, value) :: back).filter fun entry ↦ entry.1 ∈ fields.names :=
      List.mem_filter.2 ⟨hentry, decide_eq_true hknown⟩
    rw [hfilter] at hfiltered
    exact (List.mem_filter.1 hfiltered).1
  · rw [hfilter]
    exact hreads.distinct
  · rw [hfilter]
    exact hreads.read

section Records

variable {word : String} {isOpen : Bool} {fields : Fields τ} {build : τ → ρ} {parts : ρ → τ}
  {document document' : Json}

theorem keeps_record_of_gains (hgains : GainsEntry fields.names document document') :
    (Schema.record word true fields build parts).Keeps document document' := by
  obtain ⟨front, back, name, value, rfl, rfl, hname⟩ := hgains
  intro place result hread
  obtain ⟨values, hreads, hbuild⟩ := read_record_object_iff.1 hread
  exact read_record_object_iff.2 ⟨values, hreads.gain hname value, hbuild⟩

theorem keeps_extension_of_gains {base : Fields σ} {build : σ → τ → ρ} {parts : ρ → σ × τ}
    (hgains : GainsEntry (base.names ++ fields.names) document document') :
    (Schema.extension word base fields build parts).Keeps document document' := by
  obtain ⟨front, back, name, value, rfl, rfl, hname⟩ := hgains
  rw [List.mem_append, not_or] at hname
  intro place result hread
  obtain ⟨baseValues, ownValues, hbase, hown, hbuild⟩ := read_extension_object_iff.1 hread
  exact read_extension_object_iff.2
    ⟨baseValues, ownValues, hbase.gain hname.1 value, hown.gain hname.2 value, hbuild⟩

/-- A closed record does not tolerate one more entry. -/
theorem ruins_of_gains : (Schema.record word false fields build parts).Ruins (GainsEntry fields.names) := by
  rintro _ _ ⟨front, back, name, value, rfl, rfl, hname⟩ - haccepts'
  exact Bool.false_ne_true (haccepts'.fit_record.known (name, value) (by simp) hname)

/-! ## Entries that are lost -/

theorem Fields.mem_names_of_mem_requiredNames : {τ : Type} → (fields : Fields τ) → {name : String} →
    name ∈ fields.requiredNames → name ∈ fields.names
  | _, .required _ _ rest, _, hname => by
    obtain rfl | hlater := List.mem_cons.1 hname
    · exact List.mem_cons_self
    · exact List.mem_cons_of_mem _ (rest.mem_names_of_mem_requiredNames hlater)
  | _, .defaulted _ _ _ rest, _, hname => List.mem_cons_of_mem _ (rest.mem_names_of_mem_requiredNames hname)
  | _, .omittable _ _ rest, _, hname => List.mem_cons_of_mem _ (rest.mem_names_of_mem_requiredNames hname)

/-- No other entry takes the place of a required one that is lost, since no name comes twice. -/
theorem Fields.Fit.not_of_loses {front back : List (String × Json)} {name : String} {value : Json}
    (hfit : fields.Fit isOpen (front ++ (name, value) :: back)) (hname : name ∈ fields.requiredNames) :
    ¬fields.Fit isOpen (front ++ back) := by
  intro hfit'
  have hknown : name ∈ fields.names := fields.mem_names_of_mem_requiredNames hname
  obtain ⟨value', hentry⟩ := hfit'.complete name hname
  -- The entry that is found after the loss was there before, beside the lost one.
  have hdistinct := hfit.distinct
  rw [List.filter_append, List.filter_cons_of_pos (by simpa using hknown), List.map_append, List.map_cons,
    List.nodup_middle, List.nodup_cons, ← List.map_append, ← List.filter_append] at hdistinct
  exact hdistinct.1 (List.mem_map.2 ⟨(name, value'), List.mem_filter.2 ⟨hentry, by simpa using hknown⟩, rfl⟩)

theorem ruins_record_of_loses :
    (Schema.record word isOpen fields build parts).Ruins (LosesEntry fields.requiredNames) := by
  rintro _ _ ⟨front, back, name, value, rfl, rfl, hname⟩ haccepts haccepts'
  exact haccepts.fit_record.not_of_loses hname haccepts'.fit_record

theorem ruins_extension_of_loses {base : Fields σ} {build : σ → τ → ρ} {parts : ρ → σ × τ} :
    (Schema.extension word base fields build parts).Ruins
      (LosesEntry (base.requiredNames ++ fields.requiredNames)) := by
  rintro _ _ ⟨front, back, name, value, rfl, rfl, hname⟩ haccepts haccepts'
  obtain ⟨hbase, hown⟩ := haccepts.fit_extension
  obtain ⟨hbase', hown'⟩ := haccepts'.fit_extension
  obtain hname | hname := List.mem_append.1 hname
  · exact hbase.not_of_loses hname hbase'
  · exact hown.not_of_loses hname hown'

end Records

/-! ## Values that are changed -/

/-- The second document is as good a value of the named field as the first. -/
def Fields.Keep : {τ : Type} → Fields τ → String → Json → Json → Prop
  | _, .done, _, _, _ => True
  | _, .required field schema rest, name, document, document' =>
    (name = field → schema.Keeps document document') ∧ rest.Keep name document document'
  | _, .defaulted field _ schema rest, name, document, document' =>
    (name = field → schema.Keeps document document') ∧ rest.Keep name document document'
  | _, .omittable field schema rest, name, document, document' =>
    (name = field → format.isAbsent document' = format.isAbsent document ∧ schema.Keeps document document') ∧
      rest.Keep name document document'

theorem Fields.keep_refl : {τ : Type} → (fields : Fields τ) → (name : String) → (document : Json) →
    fields.Keep name document document
  | _, .done, _, _ => trivial
  | _, .required _ _ rest, name, document => ⟨fun _ _ _ ↦ id, rest.keep_refl name document⟩
  | _, .defaulted _ _ _ rest, name, document => ⟨fun _ _ _ ↦ id, rest.keep_refl name document⟩
  | _, .omittable _ _ rest, name, document => ⟨fun _ ↦ ⟨rfl, fun _ _ ↦ id⟩, rest.keep_refl name document⟩

theorem Keeps.check {schema : Schema α} {document document' : Json} (hkeeps : schema.Keeps document document')
    {place : Path} (hcheck : ((schema.read format place document).map fun _ ↦ ()) = .ok ()) :
    ((schema.read format place document').map fun _ ↦ ()) = .ok () := by
  rw [map_unit_eq_ok_iff] at hcheck ⊢
  exact hcheck.imp fun value ↦ hkeeps place value

/-- The changed value passes the check that the value passed. -/
theorem Fields.checkField_of_keep : {τ : Type} → (fields : Fields τ) → {name : String} → {place : Path} →
    {document document' : Json} → fields.Keep name document document' →
    fields.checkField format name place document = .ok () → fields.checkField format name place document' = .ok ()
  | _, .done, _, _, _, _, _, hcheck => hcheck
  | _, .required field _ rest, name, _, _, _, hkeep, hcheck => by
    rw [checkField] at hcheck ⊢
    by_cases hname : name = field
    · rw [if_pos hname] at hcheck ⊢
      exact (hkeep.1 hname).check hcheck
    · rw [if_neg hname] at hcheck ⊢
      exact rest.checkField_of_keep hkeep.2 hcheck
  | _, .defaulted field _ _ rest, name, _, _, _, hkeep, hcheck => by
    rw [checkField] at hcheck ⊢
    by_cases hname : name = field
    · rw [if_pos hname] at hcheck ⊢
      exact (hkeep.1 hname).check hcheck
    · rw [if_neg hname] at hcheck ⊢
      exact rest.checkField_of_keep hkeep.2 hcheck
  | _, .omittable field _ rest, name, _, _, _, hkeep, hcheck => by
    rw [checkField] at hcheck ⊢
    by_cases hname : name = field
    · obtain ⟨habsent, hkeeps⟩ := hkeep.1 hname
      rw [if_pos hname] at hcheck ⊢
      simp only [bind_eq_ok_iff, habsent] at hcheck ⊢
      obtain ⟨isAbsent, hisAbsent, hcheck⟩ := hcheck
      refine ⟨isAbsent, hisAbsent, ?_⟩
      cases isAbsent with
      | true => exact hcheck
      | false => exact hkeeps.check hcheck
    · rw [if_neg hname] at hcheck ⊢
      exact rest.checkField_of_keep hkeep.2 hcheck

/-- A changed entry keeps its name and is as good a value as before. -/
def Fields.KeepsEntry (fields : Fields τ) (entry entry' : String × Json) : Prop :=
  entry'.1 = entry.1 ∧ fields.Keep entry.1 entry.2 entry'.2

/-- What is found under each name is at the same place and as good a value as before. -/
structure Fields.KeepFound (fields : Fields τ) (named named' : List (String × Path × Json)) : Prop where
  missing : ∀ name, named.lookup name = none → named'.lookup name = none
  found : ∀ name place document, named.lookup name = some (place, document) →
    ∃ document', named'.lookup name = some (place, document') ∧ fields.Keep name document document'

theorem Fields.keepFound_of_entries {fields : Fields τ} {entries entries' : List (String × Json)}
    (hentries : List.Forall₂ fields.KeepsEntry entries entries') (place : Path) :
    fields.KeepFound (entries.map (located place)) (entries'.map (located place)) := by
  induction hentries with
  | nil =>
    refine ⟨fun _ ↦ id, fun _ _ _ hlookup ↦ ?_⟩
    cases hlookup
  | @cons entry entry' _ _ hentry _ ih =>
    obtain ⟨entryName, document⟩ := entry
    obtain ⟨_, document'⟩ := entry'
    obtain ⟨hname, hkeep⟩ := hentry
    cases hname
    refine ⟨fun name ↦ ?_, fun name ↦ ?_⟩
    · by_cases hsame : name = entryName
      · rw [hsame, List.map_cons, located, List.lookup_cons_self]
        intro hnone
        cases hnone
      · rw [List.map_cons, List.map_cons, located, located, List.lookup_cons, List.lookup_cons, beq_false_of_ne hsame]
        exact ih.missing name
    · by_cases hsame : name = entryName
      · rw [hsame, List.map_cons, List.map_cons, located, located, List.lookup_cons_self, List.lookup_cons_self]
        rintro place _ ⟨⟩
        exact ⟨document', rfl, hkeep⟩
      · rw [List.map_cons, List.map_cons, located, located, List.lookup_cons, List.lookup_cons, beq_false_of_ne hsame]
        exact ih.found name

theorem Fields.KeepFound.imp {fields : Fields σ} {rest : Fields τ} {named named' : List (String × Path × Json)}
    (hfound : fields.KeepFound named named')
    (hkeep : ∀ name document document', fields.Keep name document document' → rest.Keep name document document') :
    rest.KeepFound named named' := by
  refine ⟨hfound.missing, fun name place document hlookup ↦ ?_⟩
  obtain ⟨document', hlookup', hdocument⟩ := hfound.found name place document hlookup
  exact ⟨document', hlookup', hkeep _ _ _ hdocument⟩

/-- The values of the fields stay what they were. -/
theorem Fields.readNamed_of_keepFound : {τ : Type} → (fields : Fields τ) → {place : Path} →
    {named named' : List (String × Path × Json)} → fields.KeepFound named named' → {values : τ} →
    fields.readNamed format place named = .ok values → fields.readNamed format place named' = .ok values
  | _, .done, _, _, _, _, _, hread => hread
  | _, .required _ _ rest, _, _, _, hfound, _, hread => by
    rw [readNamed_required_iff] at hread ⊢
    obtain ⟨⟨valuePlace, document, hlookup, hvalue⟩, hvalues⟩ := hread
    obtain ⟨document', hlookup', hkeep⟩ := hfound.found _ _ _ hlookup
    exact ⟨⟨valuePlace, document', hlookup', hkeep.1 rfl _ _ hvalue⟩,
      rest.readNamed_of_keepFound (hfound.imp fun _ _ _ ↦ And.right) hvalues⟩
  | _, .defaulted _ _ _ rest, _, _, _, hfound, _, hread => by
    rw [readNamed_defaulted_iff] at hread ⊢
    refine hread.imp (fun hvalue ↦ ?_) (rest.readNamed_of_keepFound (hfound.imp fun _ _ _ ↦ And.right))
    obtain ⟨hmissing, hvalue⟩ | ⟨valuePlace, document, hlookup, hvalue⟩ := hvalue
    · exact .inl ⟨hfound.missing _ hmissing, hvalue⟩
    · obtain ⟨document', hlookup', hkeep⟩ := hfound.found _ _ _ hlookup
      exact .inr ⟨valuePlace, document', hlookup', hkeep.1 rfl _ _ hvalue⟩
  | _, .omittable _ _ rest, _, _, _, hfound, _, hread => by
    rw [readNamed_omittable_iff] at hread ⊢
    refine hread.imp (fun hvalue ↦ ?_) (rest.readNamed_of_keepFound (hfound.imp fun _ _ _ ↦ And.right))
    obtain ⟨hmissing | ⟨valuePlace, document, hlookup, habsent⟩, hnone⟩ |
      ⟨valuePlace, document, value, hlookup, hpresent, hvalue, hsome⟩ := hvalue
    · exact .inl ⟨.inl (hfound.missing _ hmissing), hnone⟩
    · obtain ⟨document', hlookup', hkeep⟩ := hfound.found _ _ _ hlookup
      exact .inl ⟨.inr ⟨valuePlace, document', hlookup', (hkeep.1 rfl).1.trans habsent⟩, hnone⟩
    · obtain ⟨document', hlookup', hkeep⟩ := hfound.found _ _ _ hlookup
      exact .inr ⟨valuePlace, document', value, hlookup', (hkeep.1 rfl).1.trans hpresent, (hkeep.1 rfl).2 _ _ hvalue,
        hsome⟩

/-- Changed entries are read to the same values, since they are found under the same names. -/
theorem Fields.ReadsObject.of_keeps {fields : Fields τ} {isOpen : Bool} {place : Path}
    {entries entries' : List (String × Json)} {values : τ} (hreads : fields.ReadsObject isOpen place entries values)
    (hentries : List.Forall₂ fields.KeepsEntry entries entries') :
    fields.ReadsObject isOpen place entries' values := by
  -- The names stay, so the same entries are picked out, one for one.
  have hown : List.Forall₂ fields.KeepsEntry (entries.filter fun entry ↦ entry.1 ∈ fields.names)
      (entries'.filter fun entry ↦ entry.1 ∈ fields.names) :=
    List.rel_filter (fun _ _ hentry ↦ by simp [hentry.1]) hentries
  have hnames := map_eq_map_of_forall₂ (fun _ _ hentry ↦ hentry.1.symm) hown
  refine ⟨fun entry' hentry' hunknown ↦ ?_, fun entry' hentry' hknown ↦ ?_, hnames ▸ hreads.distinct,
    fields.readNamed_of_keepFound (Fields.keepFound_of_entries hown place) hreads.read⟩
  · obtain ⟨entry, hentry, hname, -⟩ := exists_left_of_forall₂ hentries hentry'
    exact hreads.known entry hentry (hname ▸ hunknown)
  · obtain ⟨entry, hentry, hname, hkeep⟩ := exists_left_of_forall₂ hentries hentry'
    rw [hname] at hknown ⊢
    exact fields.checkField_of_keep hkeep (hreads.checked entry hentry hknown)

section Records

variable {word name : String} {isOpen : Bool} {fields : Fields τ} {build : τ → ρ} {parts : ρ → τ}
  {change : Json → Json → Prop} {document document' : Json}

/-- A record keeps its value if one of its fields gets a value that is as good. -/
theorem keeps_record_of_changes (hchange : ChangesField name change document document')
    (hkeep : ∀ value value', change value value' → fields.Keep name value value') :
    (Schema.record word isOpen fields build parts).Keeps document document' := by
  obtain ⟨front, back, value, value', rfl, rfl, hvalue⟩ := hchange
  have hrefl (entries : List (String × Json)) : List.Forall₂ fields.KeepsEntry entries entries :=
    List.forall₂_same.2 fun entry _ ↦ ⟨rfl, fields.keep_refl entry.1 entry.2⟩
  have hentries : List.Forall₂ fields.KeepsEntry (front ++ (name, value) :: back) (front ++ (name, value') :: back) :=
    List.rel_append (hrefl front) (.cons ⟨rfl, hkeep value value' hvalue⟩ (hrefl back))
  intro place result hread
  obtain ⟨values, hreads, hbuild⟩ := read_record_object_iff.1 hread
  exact read_record_object_iff.2 ⟨values, hreads.of_keeps hentries, hbuild⟩

/-- A record is ruined with the value of one of its fields. -/
theorem ruins_record_of_changes (hname : name ∈ fields.names)
    (hruins : ∀ value value', change value value' → fields.Accept name value → ¬fields.Accept name value') :
    (Schema.record word isOpen fields build parts).Ruins (ChangesField name change) := by
  rintro _ _ ⟨front, back, value, value', rfl, rfl, hvalue⟩ haccepts haccepts'
  exact hruins value value' hvalue (haccepts.fit_record.accepted (name, value) (by simp) hname)
    (haccepts'.fit_record.accepted (name, value') (by simp) hname)

end Records

end Schema

end HubRoutes
