import HubRoutes.Proofs.Schema.Respelling

/-!
# Trees whose records are well formed

A mapping that stands for a record has fields of the record only, each of them once, and all that are required. A
schema says where in a tree such mappings stand. What can be read by a strict schema is well formed at all these
places, and is not any more as soon as an entry is added or taken away at one of them.
-/

namespace HubRoutes

open Schema (Cause Fault Loose Path)

/-! ## Changes at one place -/

namespace Yaml.Tree

def ChangesOneItem (change : Tree → Tree → Prop) (tree tree' : Tree) : Prop :=
  ∃ tag front back item item', tree = .sequence tag (front ++ item :: back) ∧
    tree' = .sequence tag (front ++ item' :: back) ∧ change item item'

/-- One value of a mapping is changed, as its key permits. -/
def ChangesOneValue (change : Tree → Tree → Tree → Prop) (tree tree' : Tree) : Prop :=
  ∃ tag front back key value value', tree = .mapping tag (front ++ (key, value) :: back) ∧
    tree' = .mapping tag (front ++ (key, value') :: back) ∧ change key value value'

/-- The entries of a mapping are changed. -/
def ChangesEntries (change : List (Tree × Tree) → List (Tree × Tree) → Prop) (tree tree' : Tree) : Prop :=
  ∃ tag entries entries', tree = .mapping tag entries ∧ tree' = .mapping tag entries' ∧ change entries entries'

variable {tree tree' : Tree}

/-- If one item of a sequence is changed for the worse, not all its items are good any more. -/
theorem ChangesOneItem.not_forall {change : Tree → Tree → Prop} {good : Tree → Prop}
    (hworse : ∀ item item', change item item' → good item → ¬good item') (hchange : ChangesOneItem change tree tree')
    (hgood : ∀ tag items, tree = .sequence tag items → ∀ item ∈ items, good item) :
    ¬∀ tag items, tree' = .sequence tag items → ∀ item ∈ items, good item := by
  intro hgood'
  obtain ⟨tag, front, back, item, item', rfl, rfl, hitem⟩ := hchange
  exact hworse item item' hitem (hgood tag _ rfl item (by simp)) (hgood' tag _ rfl item' (by simp))

/-- If one value of a mapping is changed for the worse, not all its entries are good any more. -/
theorem ChangesOneValue.not_forall {change : Tree → Tree → Tree → Prop} (good : Tree → Tree → Prop)
    (hworse : ∀ key value value', change key value value' → good key value → ¬good key value')
    (hchange : ChangesOneValue change tree tree')
    (hgood : ∀ tag entries, tree = .mapping tag entries → ∀ entry ∈ entries, good entry.1 entry.2) :
    ¬∀ tag entries, tree' = .mapping tag entries → ∀ entry ∈ entries, good entry.1 entry.2 := by
  intro hgood'
  obtain ⟨tag, front, back, key, value, value', rfl, rfl, hvalue⟩ := hchange
  exact hworse key value value' hvalue (hgood tag _ rfl (key, value) (by simp))
    (hgood' tag _ rfl (key, value') (by simp))

end Yaml.Tree

namespace Schema

open Yaml (Tree)
open Yaml.Tree (format ChangesOneItem ChangesOneValue ChangesEntries)

/-! ## Records -/

/-- Entries that are fields of a record: none has another name, none comes twice, and none is missing that is
required. -/
structure Fields.Hold {τ : Type} (fields : Fields τ) (entries : List (Tree × Tree)) : Prop where
  known : ∀ entry ∈ entries, ∃ name ∈ fields.names, format.fieldName entry.1 = .ok name
  distinct : (entries.map fun entry ↦ format.fieldName entry.1).Nodup
  complete : ∀ name ∈ fields.requiredNames, ∃ entry ∈ entries, format.fieldName entry.1 = .ok name

/-- The entries of a record are spoiled: one more entry has a name that no field has, or the name of an entry that
is there, or the entry of a required field is taken away. -/
inductive Fields.SpoilEntries {τ : Type} (fields : Fields τ) : List (Tree × Tree) → List (Tree × Tree) → Prop
  | unknown (front back : List (Tree × Tree)) (key value : Tree)
    (hkey : ∀ name, format.fieldName key = .ok name → name ∉ fields.names) :
    fields.SpoilEntries (front ++ back) (front ++ (key, value) :: back)
  | repeated (front back : List (Tree × Tree)) (key value : Tree) {entry : Tree × Tree}
    (hentry : entry ∈ front ++ back) (hkey : format.fieldName key = format.fieldName entry.1) :
    fields.SpoilEntries (front ++ back) (front ++ (key, value) :: back)
  | missing (front back : List (Tree × Tree)) (key value : Tree) {name : String}
    (hkey : format.fieldName key = .ok name) (hname : name ∈ fields.requiredNames) :
    fields.SpoilEntries (front ++ (key, value) :: back) (front ++ back)

/-- One entry is added or taken away. -/
inductive AddsOrRemoves {α : Type} : List α → List α → Prop
  | adds (front back : List α) (entry : α) : AddsOrRemoves (front ++ back) (front ++ entry :: back)
  | removes (front back : List α) (entry : α) : AddsOrRemoves (front ++ entry :: back) (front ++ back)

theorem AddsOrRemoves.length_ne {α : Type} {entries entries' : List α} (hchange : AddsOrRemoves entries entries') :
    entries'.length ≠ entries.length := by
  cases hchange <;> simp

theorem ne_of_nodup_middle {α β : Type} {f : α → β} {front back : List α} {entry other : α}
    (hdistinct : ((front ++ entry :: back).map f).Nodup) (hother : other ∈ front ++ back) : f entry ≠ f other := by
  rw [List.map_append, List.map_cons, List.nodup_middle, List.nodup_cons, ← List.map_append] at hdistinct
  exact fun hsame ↦ hdistinct.1 (hsame ▸ List.mem_map_of_mem hother)

/-- Spoiled entries are not the fields of a record any more. -/
theorem Fields.Hold.not_of_spoilEntries {τ : Type} {fields : Fields τ} {entries entries' : List (Tree × Tree)}
    (hholds : fields.Hold entries) (hspoiled : fields.SpoilEntries entries entries') : ¬fields.Hold entries' := by
  intro hholds'
  cases hspoiled with
  | unknown front back key value hkey =>
    obtain ⟨name, hname, hread⟩ := hholds'.known (key, value) (by simp)
    exact hkey name hread hname
  | repeated front back key value hentry hkey =>
    exact ne_of_nodup_middle hholds'.distinct hentry hkey
  | missing front back key value hkey hname =>
    obtain ⟨entry, hentry, hread⟩ := hholds'.complete _ hname
    exact ne_of_nodup_middle hholds.distinct hentry (hkey.trans hread.symm)

/-! ## Records anywhere in a tree -/

section

variable (isChoice : List (Tree × Tree) → Prop)

mutual

/-- Every mapping in a tree that stands for a record holds fields of the record. It is given which mappings stand for
a choice. -/
def WellFormed : {α : Type} → Schema α → Tree → Prop
  | _, .text, _ => True
  | _, .chain, _ => True
  | _, .flag, _ => True
  | _, .address, _ => True
  | _, .list item, tree => ∀ tag items, tree = .sequence tag items → ∀ tree ∈ items, item.WellFormed tree
  | _, .byText value, tree => ∀ tag entries, tree = .mapping tag entries →
    ∀ entry ∈ entries, value.WellFormed entry.2
  | _, .byChain value, tree => ∀ tag entries, tree = .mapping tag entries →
    ∀ entry ∈ entries, value.WellFormed entry.2
  | _, .record _ _ fields _ _, tree => ∀ tag entries, tree = .mapping tag entries →
    fields.Hold entries ∧ ∀ entry ∈ entries, ∀ name, format.fieldName entry.1 = .ok name →
      fields.WellFormedField name entry.2
  | _, .extension .., _ => True
  | _, .choice .., tree => ∀ tag entries, tree = .mapping tag entries → isChoice entries
termination_by structural _ schema => schema

def Fields.WellFormedField : {τ : Type} → Fields τ → String → Tree → Prop
  | _, .done, _, _ => True
  | _, .required field schema rest, name, tree =>
    if name = field then schema.WellFormed tree else rest.WellFormedField name tree
  | _, .defaulted field _ schema rest, name, tree =>
    if name = field then schema.WellFormed tree else rest.WellFormedField name tree
  | _, .omittable field schema rest, name, tree =>
    if name = field then schema.WellFormed tree else rest.WellFormedField name tree
termination_by structural _ fields => fields

end

mutual

/-- One mapping in a tree that stands for a record or for a choice is spoiled. -/
def Spoils : {α : Type} → Schema α → Tree → Tree → Prop
  | _, .text, _, _ => False
  | _, .chain, _, _ => False
  | _, .flag, _, _ => False
  | _, .address, _, _ => False
  | _, .list item, tree, tree' => ChangesOneItem (fun tree tree' ↦ item.Spoils tree tree') tree tree'
  | _, .byText value, tree, tree' => ChangesOneValue (fun _ tree tree' ↦ value.Spoils tree tree') tree tree'
  | _, .byChain value, tree, tree' => ChangesOneValue (fun _ tree tree' ↦ value.Spoils tree tree') tree tree'
  | _, .record _ _ fields _ _, tree, tree' =>
    ChangesEntries fields.SpoilEntries tree tree' ∨
      ChangesOneValue (fun key tree tree' ↦
        ∃ name, format.fieldName key = .ok name ∧ fields.SpoilsField name tree tree') tree tree'
  | _, .extension .., _, _ => False
  | _, .choice .., tree, tree' => ChangesEntries AddsOrRemoves tree tree'
termination_by structural _ schema => schema

def Fields.SpoilsField : {τ : Type} → Fields τ → String → Tree → Tree → Prop
  | _, .done, _, _, _ => False
  | _, .required field schema rest, name, tree, tree' =>
    if name = field then schema.Spoils tree tree' else rest.SpoilsField name tree tree'
  | _, .defaulted field _ schema rest, name, tree, tree' =>
    if name = field then schema.Spoils tree tree' else rest.SpoilsField name tree tree'
  | _, .omittable field schema rest, name, tree, tree' =>
    if name = field then schema.Spoils tree tree' else rest.SpoilsField name tree tree'
termination_by structural _ fields => fields

end

mutual

/-- Records are closed, and a choice is read from nothing but the mappings that are given for it. -/
def IsStrict : {α : Type} → Schema α → Prop
  | _, .text => True
  | _, .chain => True
  | _, .flag => True
  | _, .address => True
  | _, .list item => item.IsStrict
  | _, .byText value => value.IsStrict
  | _, .byChain value => value.IsStrict
  | _, .record _ isOpen fields _ _ => isOpen = false ∧ fields.AreStrict
  | _, .extension .. => False
  | _, .choice _ choose _ => ∀ place tag entries shape value,
    format.loose place (.mapping tag entries) = .ok shape → choose shape = some value → isChoice entries
termination_by structural _ schema => schema

def Fields.AreStrict : {τ : Type} → Fields τ → Prop
  | _, .done => True
  | _, .required _ schema rest => schema.IsStrict ∧ rest.AreStrict
  | _, .defaulted _ _ schema rest => schema.IsStrict ∧ rest.AreStrict
  | _, .omittable _ schema rest => schema.IsStrict ∧ rest.AreStrict
termination_by structural _ fields => fields

end

variable {isChoice}

/-! ## A spoiled tree is not well formed -/

theorem not_ite_of_ite {condition : Prop} [Decidable condition] {first second third first' second' third' : Prop}
    (hthen : first → second → ¬third) (helse : first' → second' → ¬third') :
    (if condition then first else first') → (if condition then second else second') →
      ¬if condition then third else third' := by
  split
  · exact hthen
  · exact helse

/-- A mapping that stands for a choice does not any more with one entry more or less. -/
def CountsEntries (isChoice : List (Tree × Tree) → Prop) : Prop :=
  ∀ entries entries', isChoice entries → AddsOrRemoves entries entries' → ¬isChoice entries'

mutual

/-- Whatever mapping is spoiled, the tree is not well formed any more. -/
theorem not_wellFormed_of_spoils (hcounts : CountsEntries isChoice) : {α : Type} → (schema : Schema α) →
    {tree tree' : Tree} → schema.Spoils tree tree' → schema.WellFormed isChoice tree →
    ¬schema.WellFormed isChoice tree'
  | _, .text, _, _ => fun hspoils ↦ hspoils.elim
  | _, .chain, _, _ => fun hspoils ↦ hspoils.elim
  | _, .flag, _, _ => fun hspoils ↦ hspoils.elim
  | _, .address, _, _ => fun hspoils ↦ hspoils.elim
  | _, .list schema, _, _ =>
    ChangesOneItem.not_forall fun _ _ ↦ schema.not_wellFormed_of_spoils hcounts
  | _, .byText schema, _, _ =>
    ChangesOneValue.not_forall (fun _ value ↦ schema.WellFormed isChoice value)
      fun _ _ _ ↦ schema.not_wellFormed_of_spoils hcounts
  | _, .byChain schema, _, _ =>
    ChangesOneValue.not_forall (fun _ value ↦ schema.WellFormed isChoice value)
      fun _ _ _ ↦ schema.not_wellFormed_of_spoils hcounts
  | _, .record _ _ fields _ _, _, _ => by
    rintro (⟨tag, entries, entries', rfl, rfl, hspoils⟩ | hchange) hformed hformed'
    · exact (hformed tag entries rfl).1.not_of_spoilEntries hspoils (hformed' tag entries' rfl).1
    · refine hchange.not_forall (fun key value ↦ ∀ name, format.fieldName key = .ok name →
        fields.WellFormedField isChoice name value) ?_ (fun tag entries htree ↦ (hformed tag entries htree).2)
        fun tag entries htree ↦ (hformed' tag entries htree).2
      rintro key value value' ⟨name, hname, hspoils⟩ hvalue hvalue'
      exact fields.not_wellFormedField_of_spoils hcounts hspoils (hvalue name hname) (hvalue' name hname)
  | _, .extension .., _, _ => fun hspoils ↦ hspoils.elim
  | _, .choice .., _, _ => by
    rintro ⟨tag, entries, entries', rfl, rfl, hspoils⟩ hformed hformed'
    exact hcounts entries entries' (hformed tag entries rfl) hspoils (hformed' tag entries' rfl)
termination_by structural _ schema => schema

theorem Fields.not_wellFormedField_of_spoils (hcounts : CountsEntries isChoice) : {τ : Type} →
    (fields : Fields τ) → {name : String} → {tree tree' : Tree} → fields.SpoilsField name tree tree' →
    fields.WellFormedField isChoice name tree → ¬fields.WellFormedField isChoice name tree'
  | _, .done, _, _, _ => fun hspoils ↦ hspoils.elim
  | _, .required _ schema rest, _, _, _ =>
    not_ite_of_ite (schema.not_wellFormed_of_spoils hcounts) (rest.not_wellFormedField_of_spoils hcounts)
  | _, .defaulted _ _ schema rest, _, _, _ =>
    not_ite_of_ite (schema.not_wellFormed_of_spoils hcounts) (rest.not_wellFormedField_of_spoils hcounts)
  | _, .omittable _ schema rest, _, _, _ =>
    not_ite_of_ite (schema.not_wellFormed_of_spoils hcounts) (rest.not_wellFormedField_of_spoils hcounts)
termination_by structural _ fields => fields

end

/-! ## What is read is well formed -/

theorem exists_read_of_mem_entries {α κ : Type} [Ord κ] [Std.TransOrd κ] {step : Tree → Step}
    {readKey : Tree → Except Cause κ} {read : Path → Tree → Except Fault α} {place : Path} {tag : Option Yaml.Tag}
    {entries : List (Tree × Tree)} {map : OrderedMap κ α}
    (hread : (do
      let entries ← locate place (format.entries "a map" (.mapping tag entries))
      readEntries step readKey read place ∅ entries) = .ok map) :
    ∀ entry ∈ entries, ∃ place value, read place entry.2 = .ok value := by
  intro entry hentry
  have hentries : readEntries step readKey read place ∅ entries = .ok map := hread
  obtain ⟨pairs, hpairs, -⟩ := (readEntries_eq_ok_iff ..).1 hentries
  obtain ⟨pair, -, -, hvalue⟩ := exists_right_of_forall₂ hpairs hentry
  exact ⟨_, pair.2, hvalue⟩

/-- A scalar stands for no record. -/
theorem wellFormed_scalar {α : Type} (schema : Schema α) (tag : Option Yaml.Tag) (content : List Char)
    (style : Yaml.Style) (isInPlace : Bool) :
    schema.WellFormed isChoice (.scalar tag content style isInPlace) := by
  cases schema <;> simp [WellFormed]

theorem exists_scalar_of_isAbsent {tree : Tree} (habsent : tree.isAbsent = .ok true) :
    ∃ tag content style isInPlace, tree = .scalar tag content style isInPlace := by
  cases tree with
  | scalar tag content style isInPlace => exact ⟨tag, content, style, isInPlace, rfl⟩
  | _ => simp [Tree.isAbsent] at habsent

/-- The entries of a record that is read are its fields, and the value of each has been checked. -/
theorem Fields.hold_of_read {τ : Type} {fields : Fields τ} {place : Path} {entries : List (Tree × Tree)}
    {named : List (String × Path × Tree)} {values : τ} (hnamed : fields.nameEntries false place entries = .ok named)
    (hvalues : fields.readNamed format place named = .ok values) :
    fields.Hold entries ∧ ∀ entry ∈ entries, ∀ name, format.fieldName entry.1 = .ok name →
      ∃ place, fields.checkField format name place entry.2 = .ok () := by
  obtain ⟨⟨items, hitems, hclosed, rfl⟩, -, hdistinct, hchecked⟩ := (nameFields_eq_ok_iff ..).1 hnamed
  have hknown : ∀ item ∈ items, item.1 ∈ fields.names := by
    intro item hitem
    by_contra hunknown
    exact Bool.false_ne_true (hclosed item hitem hunknown)
  rw [List.filter_eq_self.2 (by simpa using hknown)] at hvalues hdistinct hchecked
  refine ⟨⟨fun entry hentry ↦ ?_, ?_, fun name hname ↦ ?_⟩, fun entry hentry name hname ↦ ?_⟩
  · obtain ⟨item, hitem, hread, -⟩ := exists_right_of_forall₂ hitems hentry
    exact ⟨item.1, hknown item hitem, hread⟩
  · have hnames : entries.map (fun entry ↦ format.fieldName entry.1) = (items.map Prod.fst).map .ok := by
      rw [List.map_map]
      exact map_eq_map_of_forall₂ (fun _ _ hentry ↦ hentry.1) hitems
    rw [hnames]
    exact hdistinct.map fun _ _ ↦ Except.ok.inj
  · obtain ⟨found, hfound⟩ := fields.exists_lookup_of_readNamed hvalues name hname
    obtain ⟨before, after, rfl, -⟩ := List.lookup_eq_some_iff.1 hfound
    have hmem : (name, found) ∈ before ++ (name, found) :: after := by simp
    obtain ⟨entry, hentry, hread, -⟩ := exists_left_of_forall₂ hitems hmem
    exact ⟨entry, hentry, hread⟩
  · obtain ⟨item, hitem, hread, hvalue⟩ := exists_right_of_forall₂ hitems hentry
    obtain rfl : name = item.1 := Except.ok.inj (hname.symm.trans hread)
    have hcheck := hchecked item hitem
    rw [hvalue] at hcheck
    exact ⟨_, hcheck⟩

theorem ite_of_ite_eq {condition : Prop} [Decidable condition] {α : Type} {result result' value : α}
    {first first' : Prop} (hthen : result = value → first) (helse : result' = value → first') :
    (if condition then result else result') = value → if condition then first else first' := by
  split
  · exact hthen
  · exact helse

mutual

/-- What a strict schema reads is well formed. -/
theorem wellFormed_of_read : {α : Type} → (schema : Schema α) → schema.IsStrict isChoice → {place : Path} →
    {tree : Tree} → {value : α} → schema.read format place tree = .ok value → schema.WellFormed isChoice tree
  | _, .text, _, _, _, _, _ => trivial
  | _, .chain, _, _, _, _, _ => trivial
  | _, .flag, _, _, _, _, _ => trivial
  | _, .address, _, _, _, _, _ => trivial
  | _, .list schema, hstrict, _, _, _, hread => by
    rintro tag items rfl item hitem
    obtain ⟨place, value, hvalue⟩ := exists_read_of_mem_items hread item hitem
    exact schema.wellFormed_of_read hstrict hvalue
  | _, .byText schema, hstrict, _, _, _, hread => by
    rintro tag entries rfl entry hentry
    obtain ⟨place, value, hvalue⟩ := exists_read_of_mem_entries hread entry hentry
    exact schema.wellFormed_of_read hstrict hvalue
  | _, .byChain schema, hstrict, _, _, _, hread => by
    rintro tag entries rfl entry hentry
    obtain ⟨place, value, hvalue⟩ := exists_read_of_mem_entries hread entry hentry
    exact schema.wellFormed_of_read hstrict hvalue
  | _, .record _ _ fields _ _, hstrict, _, _, _, hread => by
    rintro tag entries rfl
    obtain ⟨hclosed, hfields⟩ := hstrict
    obtain ⟨written, named, values, hentries, hnamed, hvalues, -⟩ := read_record_eq_ok_iff.1 hread
    obtain rfl : entries = written := Except.ok.inj hentries
    rw [hclosed] at hnamed
    obtain ⟨hholds, hchecked⟩ := Fields.hold_of_read hnamed hvalues
    refine ⟨hholds, fun entry hentry name hname ↦ ?_⟩
    obtain ⟨place, hcheck⟩ := hchecked entry hentry name hname
    exact fields.wellFormedField_of_check hfields hcheck
  | _, .extension .., hstrict, _, _, _, _ => hstrict.elim
  | _, .choice .., hstrict, _, _, _, hread => by
    rintro tag entries rfl
    obtain ⟨shape, hshape, hchosen⟩ := read_choice_eq_ok_iff.1 hread
    exact hstrict _ tag entries shape _ hshape hchosen
termination_by structural _ schema => schema

theorem Fields.wellFormedField_of_check : {τ : Type} → (fields : Fields τ) → fields.AreStrict isChoice →
    {name : String} → {place : Path} → {tree : Tree} → fields.checkField format name place tree = .ok () →
    fields.WellFormedField isChoice name tree
  | _, .done, _, _, _, _ => fun _ ↦ trivial
  | _, .required _ schema rest, hstrict, _, _, _ =>
    ite_of_ite_eq (fun hcheck ↦ schema.wellFormed_of_read hstrict.1 ((map_unit_eq_ok_iff _).1 hcheck).choose_spec)
      (rest.wellFormedField_of_check hstrict.2)
  | _, .defaulted _ _ schema rest, hstrict, _, _, _ =>
    ite_of_ite_eq (fun hcheck ↦ schema.wellFormed_of_read hstrict.1 ((map_unit_eq_ok_iff _).1 hcheck).choose_spec)
      (rest.wellFormedField_of_check hstrict.2)
  | _, .omittable _ schema rest, hstrict, _, _, tree => by
    refine ite_of_ite_eq (fun hcheck ↦ ?_) (rest.wellFormedField_of_check hstrict.2)
    simp only [bind_eq_ok_iff, locate_eq_ok_iff] at hcheck
    obtain ⟨isAbsent, habsent, hcheck⟩ := hcheck
    cases isAbsent with
    | true =>
      obtain ⟨tag, content, style, isInPlace, rfl⟩ := exists_scalar_of_isAbsent habsent
      exact wellFormed_scalar schema tag content style isInPlace
    | false =>
      obtain ⟨value, hvalue⟩ := (map_unit_eq_ok_iff _).1 hcheck
      exact schema.wellFormed_of_read hstrict.1 hvalue
termination_by structural _ fields => fields

end

/-- A tree that a strict schema reads is not read any more when it is spoiled. -/
theorem exists_fault_of_spoils {α : Type} {schema : Schema α} (hcounts : CountsEntries isChoice)
    (hstrict : schema.IsStrict isChoice) {place : Path} {tree tree' : Tree} {value : α}
    (hread : schema.read format place tree = .ok value) (hspoils : schema.Spoils tree tree') :
    ∃ fault, schema.read format place tree' = .error fault := by
  cases hread' : schema.read format place tree' with
  | error fault => exact ⟨fault, rfl⟩
  | ok value' =>
    exact absurd (schema.wellFormed_of_read hstrict hread')
      (schema.not_wellFormed_of_spoils hcounts hspoils (schema.wellFormed_of_read hstrict hread))

end

end Schema

end HubRoutes
