import HubRoutes.Proofs.Address.RoundTrip
import HubRoutes.Proofs.Json.RoundTrip
import HubRoutes.Proofs.OrderedMap
import HubRoutes.Proofs.Schema.Object
import Mathlib.Data.List.Perm.Basic

/-!
# The documents of a value

A value has many documents: the entries of an object stand in any order, and a field without a value is left out
or null. A schema says which documents these are, and each of them is read to the value as long as the schema
does not confuse anything itself: the fields of a record have distinct names, and a record is determined by its
parts. All these are conditions on the schema alone and are settled once for each schema.
-/

namespace HubRoutes

/-- An object has certain entries and no others, in any order. -/
def Json.HasEntries (document : Json) (entries : List (String × Json)) : Prop :=
  ∃ written, document = .object written ∧ written.Perm entries

namespace Schema

open Json (format)

/-! ## Schemas that lose nothing -/

mutual

/-- Whether the written documents of a schema determine their values. -/
def IsLossless : {α : Type} → Schema α → Prop
  | _, .text => True
  | _, .chain => True
  | _, .flag => True
  | _, .address => True
  | _, .list item => item.IsLossless
  | _, .byText value => value.IsLossless
  | _, .byChain value => value.IsLossless
  | _, .record _ _ fields build parts =>
    fields.names.Nodup ∧ fields.AreLossless ∧ ∀ value, build (parts value) = value
  | _, .extension _ base own build parts =>
    (base.names ++ own.names).Nodup ∧ base.AreLossless ∧ own.AreLossless ∧
      ∀ value, build (parts value).1 (parts value).2 = value
  | _, .choice _ choose view => ∀ value, choose (view value).loose = some value
termination_by structural _ schema => schema

def Fields.AreLossless : {τ : Type} → Fields τ → Prop
  | _, .done => True
  | _, .required _ schema rest => schema.IsLossless ∧ rest.AreLossless
  | _, .defaulted _ _ schema rest => schema.IsLossless ∧ rest.AreLossless
  | _, .omittable _ schema rest =>
    schema.IsLossless ∧ (∀ value, schema.write value ≠ .null) ∧ rest.AreLossless
termination_by structural _ fields => fields

end

/-! ## Documents and values -/

mutual

/-- A document stands for a value. -/
def Denotes : {α : Type} → Schema α → Json → α → Prop
  | _, .text, document, content => document = .text content
  | _, .chain, document, value => document = .natural value.toNat
  | _, .flag, document, value => document = .flag value
  | _, .address, document, value => document = .text value.text
  | _, .list item, document, values => ∃ items, document = .list items ∧
    List.Forall₂ (fun document value ↦ item.Denotes document value) items values
  | _, .byText value, document, map => ∃ entries, document.HasEntries entries ∧
    List.Forall₂ (fun entry pair ↦ entry.1 = pair.1 ∧ value.Denotes entry.2 pair.2) entries map.entries
  | _, .byChain value, document, map => ∃ entries, document.HasEntries entries ∧
    List.Forall₂ (fun entry pair ↦ entry.1 = pair.1.text ∧ value.Denotes entry.2 pair.2) entries map.entries
  | _, .record _ _ fields _ parts, document, value =>
    ∃ entries, document.HasEntries entries ∧ fields.Denote entries (parts value)
  | _, .extension _ base own _ parts, document, value =>
    ∃ front back, document.HasEntries (front ++ back) ∧ base.Denote front (parts value).1 ∧
      own.Denote back (parts value).2
  | _, .choice _ choose _, document, value => choose document.loose = some value
termination_by structural _ schema => schema

/-- Entries in the order of the fields of a record stand for the values of these. -/
def Fields.Denote : {τ : Type} → Fields τ → List (String × Json) → τ → Prop
  | _, .done, entries, _ => entries = []
  | _, .required name schema rest, entries, (value, values) => ∃ document later,
    entries = (name, document) :: later ∧ schema.Denotes document value ∧ rest.Denote later values
  | _, .defaulted name _ schema rest, entries, (value, values) => ∃ document later,
    entries = (name, document) :: later ∧ schema.Denotes document value ∧ rest.Denote later values
  | _, .omittable name _ rest, entries, (none, values) => ∃ later,
    (entries = later ∨ entries = (name, .null) :: later) ∧ rest.Denote later values
  | _, .omittable name schema rest, entries, (some value, values) => ∃ document later,
    entries = (name, document) :: later ∧ document ≠ .null ∧ schema.Denotes document value ∧
      rest.Denote later values
termination_by structural _ fields => fields

end

/-- Each document of a value is read to the value, at every place. -/
def ReadsDenoted {α : Type} (schema : Schema α) : Prop :=
  ∀ place document value, schema.Denotes document value → schema.read format place document = .ok value

/-- The documents of the values of all fields are read to these values. -/
def Fields.ReadDenoted : {τ : Type} → Fields τ → Prop
  | _, .done => True
  | _, .required _ schema rest => schema.ReadsDenoted ∧ rest.ReadDenoted
  | _, .defaulted _ _ schema rest => schema.ReadsDenoted ∧ rest.ReadDenoted
  | _, .omittable _ schema rest => schema.ReadsDenoted ∧ rest.ReadDenoted

/-! ## Single values, lists and maps -/

theorem asChain_natural (chain : ChainId) : Json.asChain (.natural chain.toNat) = .ok chain := by
  simp [Json.asChain, Json.natural]

/-- The decimal text of a chain is read as the key that stands for the chain. -/
theorem asChainKey_text (chain : ChainId) : Json.asChainKey (.text chain.text) = .ok chain := by
  have hread := Json.read_decimal chain.toNat_lt (show Json.EndsNumber [] from nofun)
  obtain ⟨first, later, hdecimal, hdigit⟩ := Json.exists_decimal_eq_cons chain.toNat
  have htext : chain.text.toList = first :: later := by
    rw [ChainId.text, Text.Numeral.text, String.toList_ofList, hdecimal]
  rw [List.append_nil, hdecimal] at hread
  have hchain := asChain_natural chain
  rw [Json.natural] at hchain
  simp only [Json.asChainKey, htext, hdigit, or_true, if_true, hread]
  rw [hchain]
  rfl

theorem readsDenoted_address : Schema.address.ReadsDenoted := by
  rintro place _ value rfl
  have hwritten : locate place (format.text (.text value.text)) = .ok value.text := rfl
  rw [read, hwritten, ok_bind, Address.read_text]

theorem readItems_of_denotes {α : Type} {item : Schema α} (hitem : item.ReadsDenoted) (place : Path) (index : Nat)
    {items : List Json} {values : List α}
    (hdenotes : List.Forall₂ (fun document value ↦ item.Denotes document value) items values) :
    readItems (fun place document ↦ item.read format place document) place index items = .ok values := by
  induction hdenotes generalizing index with
  | nil => rfl
  | cons hvalue _ ih =>
    rw [readItems, hitem _ _ _ hvalue, ih]
    rfl

theorem readsDenoted_list {α : Type} {item : Schema α} (hitem : item.ReadsDenoted) :
    (Schema.list item).ReadsDenoted := by
  rintro place _ values ⟨items, rfl, hdenotes⟩
  have hitems : locate place (format.items (.list items)) = .ok items := rfl
  rw [read, hitems, ok_bind]
  exact readItems_of_denotes hitem place 0 hdenotes

/-- Entries that are read to the entries of a map are read to the map, whatever their order is. -/
theorem readEntries_of_perm {κ α : Type} [Ord κ] [Std.TransOrd κ] [Std.LawfulEqOrd κ] [DecidableEq κ]
    {readKey : Json → Except Cause κ} {read : Path → Json → Except Fault α} {place : Path}
    {written entries : List (String × Json)} {map : OrderedMap κ α} (hperm : written.Perm entries)
    (hread : List.Forall₂ (fun entry pair ↦ readKey (.text entry.1) = .ok pair.1 ∧
      read (.key entry.1 :: place) entry.2 = .ok pair.2) entries map.entries) :
    readEntries format.step readKey read place ∅ (written.map fun entry ↦ (.text entry.1, entry.2)) = .ok map := by
  obtain ⟨pairs, hpairs, hsorted⟩ := List.perm_comp_forall₂ hperm hread
  have hdistinct : (pairs.map Prod.fst).Nodup := (hsorted.map Prod.fst).nodup_iff.2 map.nodup_keys
  rw [readEntries_eq_ok_iff]
  refine ⟨pairs, List.forall₂_map_left_iff.2 hpairs, ?_⟩
  rw [OrderedMap.foldl_insert_perm hsorted hdistinct]
  exact map.ofList_entries

theorem readsDenoted_byText {α : Type} {value : Schema α} (hvalue : value.ReadsDenoted) :
    (Schema.byText value).ReadsDenoted := by
  rintro place _ map ⟨entries, ⟨written, rfl, hperm⟩, hdenotes⟩
  have hentries : locate place (format.entries "a map" (.object written)) =
      .ok (written.map fun entry ↦ (.text entry.1, entry.2)) := rfl
  rw [read, hentries, ok_bind]
  refine readEntries_of_perm hperm (hdenotes.imp ?_)
  rintro entry pair ⟨hkey, hdocument⟩
  exact ⟨congrArg Except.ok hkey, hvalue _ _ _ hdocument⟩

theorem readsDenoted_byChain {α : Type} {value : Schema α} (hvalue : value.ReadsDenoted) :
    (Schema.byChain value).ReadsDenoted := by
  rintro place _ map ⟨entries, ⟨written, rfl, hperm⟩, hdenotes⟩
  have hentries : locate place (format.entries "a map" (.object written)) =
      .ok (written.map fun entry ↦ (.text entry.1, entry.2)) := rfl
  rw [read, hentries, ok_bind]
  refine readEntries_of_perm hperm (hdenotes.imp ?_)
  rintro entry pair ⟨hkey, hdocument⟩
  refine ⟨?_, hvalue _ _ _ hdocument⟩
  rw [hkey]
  exact asChainKey_text pair.1

theorem readsDenoted_choice {α : Type} (name : String) {choose : Loose → Option α} {view : α → Json} :
    (Schema.choice name choose view).ReadsDenoted :=
  fun _ _ _ hchosen ↦ read_choice_eq_ok_iff.2 ⟨_, rfl, hchosen⟩

/-! ## Records -/

theorem isAbsent_of_ne_null {document : Json} (hpresent : document ≠ .null) :
    format.isAbsent document = .ok false := by
  cases document with
  | null => exact absurd rfl hpresent
  | _ => rfl

theorem Fields.names_sublist_of_denote : {τ : Type} → (fields : Fields τ) → {entries : List (String × Json)} →
    {values : τ} → fields.Denote entries values → (entries.map Prod.fst).Sublist fields.names
  | _, .done, _, _, hdenote => by
    obtain rfl := hdenote
    exact .slnil
  | _, .required _ _ rest, _, (_, _), hdenote => by
    obtain ⟨_, _, rfl, _, hrest⟩ := hdenote
    exact (rest.names_sublist_of_denote hrest).cons_cons _
  | _, .defaulted _ _ _ rest, _, (_, _), hdenote => by
    obtain ⟨_, _, rfl, _, hrest⟩ := hdenote
    exact (rest.names_sublist_of_denote hrest).cons_cons _
  | _, .omittable _ _ rest, _, (none, _), hdenote => by
    obtain ⟨_, rfl | rfl, hrest⟩ := hdenote
    · exact (rest.names_sublist_of_denote hrest).cons _
    · exact (rest.names_sublist_of_denote hrest).cons_cons _
  | _, .omittable _ _ rest, _, (some _, _), hdenote => by
    obtain ⟨_, _, rfl, _, _, hrest⟩ := hdenote
    exact (rest.names_sublist_of_denote hrest).cons_cons _

theorem Fields.mem_names_of_denote {τ : Type} {fields : Fields τ} {entries : List (String × Json)} {values : τ}
    (hdenote : fields.Denote entries values) {entry : String × Json} (hentry : entry ∈ entries) :
    entry.1 ∈ fields.names :=
  (fields.names_sublist_of_denote hdenote).subset (List.mem_map_of_mem hentry)

theorem Fields.ne_of_denote {name : String} {τ : Type} {rest : Fields τ} {entries : List (String × Json)}
    {values : τ} (hname : name ∉ rest.names) (hdenote : rest.Denote entries values) {entry : String × Json}
    (hentry : entry ∈ entries) : entry.1 ≠ name := by
  rintro rfl
  exact hname (mem_names_of_denote hdenote hentry)

/-- The document of a field passes the check of the field, since no other field has its name. -/
theorem Fields.checkField_of_denote : {τ : Type} → (fields : Fields τ) → fields.names.Nodup → fields.ReadDenoted →
    {entries : List (String × Json)} → {values : τ} → fields.Denote entries values → (place : Path) →
    ∀ entry ∈ entries, fields.checkField format entry.1 place entry.2 = .ok ()
  | _, .done, _, _, _, _, rfl, _ => nofun
  | _, .required name schema rest, hnames, hfields, _, (_, _), hdenote, place => by
    obtain ⟨hname, hrest⟩ := List.nodup_cons.1 hnames
    obtain ⟨document, later, rfl, hvalue, hvalues⟩ := hdenote
    refine List.forall_mem_cons.2 ⟨?_, fun entry hentry ↦ ?_⟩
    · rw [checkField, if_pos rfl, hfields.1 _ _ _ hvalue]
      rfl
    · rw [checkField, if_neg (ne_of_denote hname hvalues hentry)]
      exact rest.checkField_of_denote hrest hfields.2 hvalues place entry hentry
  | _, .defaulted name _ schema rest, hnames, hfields, _, (_, _), hdenote, place => by
    obtain ⟨hname, hrest⟩ := List.nodup_cons.1 hnames
    obtain ⟨document, later, rfl, hvalue, hvalues⟩ := hdenote
    refine List.forall_mem_cons.2 ⟨?_, fun entry hentry ↦ ?_⟩
    · rw [checkField, if_pos rfl, hfields.1 _ _ _ hvalue]
      rfl
    · rw [checkField, if_neg (ne_of_denote hname hvalues hentry)]
      exact rest.checkField_of_denote hrest hfields.2 hvalues place entry hentry
  | _, .omittable name schema rest, hnames, hfields, _, (none, _), hdenote, place => by
    obtain ⟨hname, hrest⟩ := List.nodup_cons.1 hnames
    obtain ⟨later, hlater, hvalues⟩ := hdenote
    have hothers : ∀ entry ∈ later,
        (Fields.omittable name schema rest).checkField format entry.1 place entry.2 = .ok () := by
      intro entry hentry
      rw [checkField, if_neg (ne_of_denote hname hvalues hentry)]
      exact rest.checkField_of_denote hrest hfields.2 hvalues place entry hentry
    obtain rfl | rfl := hlater
    · exact hothers
    · refine List.forall_mem_cons.2 ⟨?_, hothers⟩
      rw [checkField, if_pos rfl]
      rfl
  | _, .omittable name schema rest, hnames, hfields, _, (some _, _), hdenote, place => by
    obtain ⟨hname, hrest⟩ := List.nodup_cons.1 hnames
    obtain ⟨document, later, rfl, hpresent, hvalue, hvalues⟩ := hdenote
    refine List.forall_mem_cons.2 ⟨?_, fun entry hentry ↦ ?_⟩
    · rw [checkField, if_pos rfl, isAbsent_of_ne_null hpresent, hfields.1 _ _ _ hvalue]
      rfl
    · rw [checkField, if_neg (ne_of_denote hname hvalues hentry)]
      exact rest.checkField_of_denote hrest hfields.2 hvalues place entry hentry

/-- Named entries in which a look-up of some names finds what it finds in the entries of an object. -/
def Finds (names : List String) (entries : List (String × Json)) (place : Path)
    (named : List (String × Path × Json)) : Prop :=
  ∀ name ∈ names, named.lookup name =
    (entries.lookup name).map fun document ↦ (.key name :: place, document)

section

variable {name : String} {names : List String} {document : Json} {entries entries' : List (String × Json)}
  {place : Path} {named : List (String × Path × Json)}

theorem Finds.head (hfinds : Finds (name :: names) ((name, document) :: entries) place named) :
    named.lookup name = some (.key name :: place, document) := by
  rw [hfinds name List.mem_cons_self, List.lookup_cons_self]
  rfl

theorem Finds.tail (hfinds : Finds (name :: names) ((name, document) :: entries) place named)
    (hname : name ∉ names) : Finds names entries place named := by
  intro other hother
  have hdifferent : other ≠ name := by
    rintro rfl
    exact hname hother
  rw [hfinds other (List.mem_cons_of_mem _ hother), List.lookup_cons, beq_false_of_ne hdifferent]

theorem Finds.perm (hfinds : Finds names entries place named) (hperm : entries.Perm entries')
    (hdistinct : (entries.map Prod.fst).Nodup) : Finds names entries' place named := by
  intro name hname
  rw [hfinds name hname, lookup_eq_of_perm hperm hdistinct]

end

/-- A record is read from named entries in which the documents of its fields are found. -/
theorem Fields.readNamed_of_denote : {τ : Type} → (fields : Fields τ) → fields.names.Nodup → fields.ReadDenoted →
    {entries : List (String × Json)} → {values : τ} → fields.Denote entries values → {place : Path} →
    {named : List (String × Path × Json)} → Finds fields.names entries place named →
    fields.readNamed format place named = .ok values
  | _, .done, _, _, _, _, _, _, _, _ => rfl
  | _, .required name schema rest, hnames, hfields, _, (value, _), hdenote, place, _, hfinds => by
    obtain ⟨hname, hrest⟩ := List.nodup_cons.1 hnames
    obtain ⟨document, later, rfl, hvalue, hvalues⟩ := hdenote
    have hlater := rest.readNamed_of_denote hrest hfields.2 hvalues (hfinds.tail hname)
    simp [readNamed, hfinds.head, hfields.1 _ document value hvalue, hlater]
  | _, .defaulted name _ schema rest, hnames, hfields, _, (value, _), hdenote, place, _, hfinds => by
    obtain ⟨hname, hrest⟩ := List.nodup_cons.1 hnames
    obtain ⟨document, later, rfl, hvalue, hvalues⟩ := hdenote
    have hlater := rest.readNamed_of_denote hrest hfields.2 hvalues (hfinds.tail hname)
    simp [readNamed, hfinds.head, hfields.1 _ document value hvalue, hlater]
  | _, .omittable name schema rest, hnames, hfields, entries, (none, _), hdenote, place, named, hfinds => by
    obtain ⟨hname, hrest⟩ := List.nodup_cons.1 hnames
    obtain ⟨later, hlater, hvalues⟩ := hdenote
    obtain rfl | rfl := hlater
    · have hmissing : entries.lookup name = none := by
        rw [List.lookup_eq_none_iff]
        intro entry hentry
        simpa using (ne_of_denote hname hvalues hentry).symm
      have hlookup : named.lookup name = none := by
        rw [hfinds name List.mem_cons_self, hmissing]
        rfl
      have hread := rest.readNamed_of_denote hrest hfields.2 hvalues
        fun other hother ↦ hfinds other (List.mem_cons_of_mem _ hother)
      simp [readNamed, hlookup, hread]
    · have hread := rest.readNamed_of_denote hrest hfields.2 hvalues (hfinds.tail hname)
      have habsent : locate place (format.isAbsent .null) = .ok true := rfl
      simp [readNamed, hfinds.head, habsent, hread]
  | _, .omittable name schema rest, hnames, hfields, _, (some value, _), hdenote, place, _, hfinds => by
    obtain ⟨hname, hrest⟩ := List.nodup_cons.1 hnames
    obtain ⟨document, later, rfl, hpresent, hvalue, hvalues⟩ := hdenote
    have hlater := rest.readNamed_of_denote hrest hfields.2 hvalues (hfinds.tail hname)
    have hthere : locate place (format.isAbsent document) = .ok false :=
      congrArg (locate place) (isAbsent_of_ne_null hpresent)
    simp [readNamed, hfinds.head, hthere, hfields.1 _ document value hvalue, hlater]

/-- The fields of a record are found again among the entries of an object. The other entries are
tolerated if the record is open. -/
theorem Fields.readsObject_of_denote {τ : Type} {fields : Fields τ} (hnames : fields.names.Nodup)
    (hfields : fields.ReadDenoted) {values : τ} (isOpen : Bool) (place : Path)
    {written entries : List (String × Json)} (hopen : ∀ entry ∈ written, entry.1 ∉ fields.names → isOpen = true)
    (hperm : (written.filter fun entry ↦ entry.1 ∈ fields.names).Perm entries)
    (hdenote : fields.Denote entries values) : fields.ReadsObject isOpen place written values := by
  have hown : ((written.filter fun entry ↦ entry.1 ∈ fields.names).map Prod.fst).Nodup :=
    (hperm.map Prod.fst).nodup_iff.2 ((fields.names_sublist_of_denote hdenote).nodup hnames)
  have hfinds : Finds fields.names (written.filter fun entry ↦ entry.1 ∈ fields.names) place _ :=
    fun name _ ↦ lookup_map_located name _ place
  refine ⟨hopen, fun entry hentry hknown ↦ ?_, hown,
    fields.readNamed_of_denote hnames hfields hdenote (hfinds.perm hperm hown)⟩
  have hfiltered : entry ∈ written.filter fun entry ↦ entry.1 ∈ fields.names :=
    List.mem_filter.2 ⟨hentry, decide_eq_true hknown⟩
  exact fields.checkField_of_denote hnames hfields hdenote _ entry (hperm.subset hfiltered)

theorem Fields.filter_of_denote {τ : Type} {fields : Fields τ} {entries : List (String × Json)} {values : τ}
    (hdenote : fields.Denote entries values) :
    (entries.filter fun entry ↦ entry.1 ∈ fields.names) = entries := by
  rw [List.filter_eq_self]
  intro entry hentry
  simpa using mem_names_of_denote hdenote hentry

theorem Fields.filter_of_disjoint {τ : Type} {fields : Fields τ} {names : List String}
    (hdisjoint : ∀ name ∈ fields.names, name ∉ names) {entries : List (String × Json)} {values : τ}
    (hdenote : fields.Denote entries values) : (entries.filter fun entry ↦ entry.1 ∈ names) = [] := by
  rw [List.filter_eq_nil_iff]
  intro entry hentry
  simpa using hdisjoint entry.1 (mem_names_of_denote hdenote hentry)

theorem readsDenoted_record {ρ τ : Type} (name : String) (isOpen : Bool) {fields : Fields τ}
    {build : τ → ρ} {parts : ρ → τ} (hnames : fields.names.Nodup) (hfields : fields.ReadDenoted)
    (hbuild : ∀ value, build (parts value) = value) :
    (Schema.record name isOpen fields build parts).ReadsDenoted := by
  rintro place _ value ⟨entries, ⟨written, rfl, hperm⟩, hdenote⟩
  have hknown : ∀ entry ∈ written, entry.1 ∈ fields.names := fun entry hentry ↦
    Fields.mem_names_of_denote hdenote (hperm.subset hentry)
  have hfiltered := hperm.filter fun entry ↦ entry.1 ∈ fields.names
  rw [Fields.filter_of_denote hdenote] at hfiltered
  exact read_record_object_iff.2 ⟨parts value, Fields.readsObject_of_denote hnames hfields isOpen place
    (fun entry hentry hunknown ↦ absurd (hknown entry hentry) hunknown) hfiltered hdenote, hbuild value⟩

theorem readsDenoted_extension {ρ σ τ : Type} (name : String) {base : Fields σ} {own : Fields τ}
    {build : σ → τ → ρ} {parts : ρ → σ × τ} (hnames : (base.names ++ own.names).Nodup)
    (hbase : base.ReadDenoted) (hown : own.ReadDenoted)
    (hbuild : ∀ value, build (parts value).1 (parts value).2 = value) :
    (Schema.extension name base own build parts).ReadsDenoted := by
  rintro place _ value ⟨front, back, ⟨written, rfl, hperm⟩, hfront, hback⟩
  obtain ⟨hbaseNames, hownNames, hdisjoint⟩ := List.nodup_append.1 hnames
  -- Both parts are read from the same object. Each finds its own entries alone, since no name belongs to both.
  have hownEntries := hperm.filter fun entry ↦ entry.1 ∈ own.names
  rw [List.filter_append, Fields.filter_of_denote hback, Fields.filter_of_disjoint
    (fun name hbaseName hownName ↦ hdisjoint name hbaseName name hownName rfl) hfront, List.nil_append] at hownEntries
  have hbaseEntries := hperm.filter fun entry ↦ entry.1 ∈ base.names
  rw [List.filter_append, Fields.filter_of_denote hfront, Fields.filter_of_disjoint
    (fun name hownName hbaseName ↦ hdisjoint name hbaseName name hownName rfl) hback, List.append_nil] at hbaseEntries
  have hreadsBase := Fields.readsObject_of_denote hbaseNames hbase true place (fun _ _ _ ↦ rfl)
    hbaseEntries hfront
  have hreadsOwn := Fields.readsObject_of_denote hownNames hown true place (fun _ _ _ ↦ rfl)
    hownEntries hback
  exact read_extension_object_iff.2 ⟨_, _, hreadsBase, hreadsOwn, hbuild value⟩

/-! ## All schemas -/

mutual

/-- A schema that loses nothing reads every document of a value to the value. -/
theorem readsDenoted : {α : Type} → (schema : Schema α) → schema.IsLossless → schema.ReadsDenoted
  | _, .text, _ => fun _ _ _ hdenotes ↦ hdenotes ▸ rfl
  | _, .chain, _ => fun place _ value hdenotes ↦ hdenotes ▸ congrArg (locate place) (asChain_natural value)
  | _, .flag, _ => fun _ _ _ hdenotes ↦ hdenotes ▸ rfl
  | _, .address, _ => readsDenoted_address
  | _, .list item, hlossless => readsDenoted_list (item.readsDenoted hlossless)
  | _, .byText value, hlossless => readsDenoted_byText (value.readsDenoted hlossless)
  | _, .byChain value, hlossless => readsDenoted_byChain (value.readsDenoted hlossless)
  | _, .record name isOpen fields _ _, hlossless =>
    readsDenoted_record name isOpen hlossless.1 (fields.readDenoted hlossless.2.1) hlossless.2.2
  | _, .extension name base own _ _, hlossless =>
    readsDenoted_extension name hlossless.1 (base.readDenoted hlossless.2.1)
      (own.readDenoted hlossless.2.2.1) hlossless.2.2.2
  | _, .choice name _ _, _ => readsDenoted_choice name
termination_by structural _ schema => schema

theorem Fields.readDenoted : {τ : Type} → (fields : Fields τ) → fields.AreLossless → fields.ReadDenoted
  | _, .done, _ => trivial
  | _, .required _ schema rest, hlossless => ⟨schema.readsDenoted hlossless.1, rest.readDenoted hlossless.2⟩
  | _, .defaulted _ _ schema rest, hlossless => ⟨schema.readsDenoted hlossless.1, rest.readDenoted hlossless.2⟩
  | _, .omittable _ schema rest, hlossless => ⟨schema.readsDenoted hlossless.1, rest.readDenoted hlossless.2.2⟩
termination_by structural _ fields => fields

end

end Schema

end HubRoutes
