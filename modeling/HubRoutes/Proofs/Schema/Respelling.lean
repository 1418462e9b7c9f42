import HubRoutes.Proofs.Schema.Entries
import HubRoutes.Proofs.Schema.Spelling
import Mathlib.Tactic.SplitIfs

/-!
# Reading documents in another spelling

A changed tree is read as well as the tree was, and to an alike value. The proof follows the schema. In a record
all changes come down to what is found under the name of a field: the same tree, a changed one, or one that
stands for the absence of the field where nothing was found before.
-/

namespace HubRoutes.Schema

open Yaml (Tree)
open Yaml.Tree (format Reorders ChangesItems ChangesValues RewritesAddress)

section

variable (spells : Loose → Loose → Prop)

/-- A changed tree is read as well as the tree was, to an alike value. -/
def Carries {α : Type} (schema : Schema α) : Prop :=
  ∀ place tree tree' value, schema.Respells spells tree tree' →
    schema.read format place tree = .ok value →
    ∃ value', schema.read format place tree' = .ok value' ∧ schema.Alike spells value value'

/-- The changed value of each field is read to an alike value. -/
def Fields.Carry : {τ : Type} → Fields τ → Prop
  | _, .done => True
  | _, .required _ schema rest => schema.Carries spells ∧ rest.Carry
  | _, .defaulted _ _ schema rest => schema.Carries spells ∧ rest.Carry
  | _, .omittable _ schema rest => schema.Carries spells ∧ rest.Carry

variable {spells}

theorem Carries.eq_or {α : Type} {schema : Schema α} (hcarries : schema.Carries spells) {place : Path}
    {tree tree' : Tree} {value : α} (hchange : tree' = tree ∨ schema.Respells spells tree tree')
    (hread : schema.read format place tree = .ok value) :
    ∃ value', schema.read format place tree' = .ok value' ∧ schema.Alike spells value value' := by
  rcases hchange with rfl | hchange
  · exact ⟨value, hread, schema.alike_refl value⟩
  · exact hcarries place tree tree' value hchange hread

/-! ## Addresses, lists and maps -/

theorem carries_address : Schema.address.Carries spells := by
  rintro place tree tree' value ⟨written, written', address, htree, htree', haddress, haddress'⟩ hread
  have hsame : address = value := by
    simpa [read, format, htree, haddress, locate, Except.mapError] using hread
  refine ⟨address, ?_, hsame.symm ▸ rfl⟩
  simp [read, format, htree', haddress', locate, Except.mapError]

section Collections

variable {α κ : Type} {value : Schema α} (hvalue : value.Carries spells)
include hvalue

theorem exists_readItems_of_changes {items items' : List Tree}
    (hitems : List.Forall₂ (fun item item' ↦ item' = item ∨ value.Respells spells item item') items items')
    {place : Path} {index : Nat} {values : List α}
    (hread : readItems (fun place tree ↦ value.read format place tree) place index items = .ok values) :
    ∃ values', readItems (fun place tree ↦ value.read format place tree) place index items' = .ok values' ∧
      List.Forall₂ (fun value₁ value₂ ↦ value.Alike spells value₁ value₂) values values' := by
  induction hitems generalizing index values with
  | nil => exact ⟨[], rfl, by cases hread; exact .nil⟩
  | cons hhead _ ih =>
    simp only [readItems, bind_eq_ok_iff, pure_eq_ok_iff] at hread ⊢
    obtain ⟨first, hfirst, rest, hrest, rfl⟩ := hread
    obtain ⟨first', hfirst', halike⟩ := hvalue.eq_or hhead hfirst
    obtain ⟨rest', hrest', halikes⟩ := ih hrest
    exact ⟨first' :: rest', ⟨first', hfirst', rest', hrest', rfl⟩, .cons halike halikes⟩

theorem carries_list : (Schema.list value).Carries spells := by
  rintro place _ _ values ⟨tag, items, items', rfl, rfl, hitems⟩ hread
  exact exists_readItems_of_changes hvalue hitems hread

variable [Ord κ] [Std.TransOrd κ] [Std.LawfulEqOrd κ] [DecidableEq κ]

/-- A map is read as its entries are, one after the other: alike values leave alike maps, and the order of
distinct keys leaves no trace. -/
theorem exists_map_of_changes {readKey : Tree → Except Cause κ} {place : Path} {tree tree' : Tree}
    {map : OrderedMap κ α}
    (hchange : Reorders readKey tree tree' ∨
      ChangesValues (fun _ tree tree' ↦ value.Respells spells tree tree') tree tree')
    (hread : (do
      let entries ← locate place (format.entries "a map" tree)
      readEntries format.step readKey (fun place tree ↦ value.read format place tree) place ∅ entries) =
        .ok map) :
    ∃ map', (do
      let entries ← locate place (format.entries "a map" tree')
      readEntries format.step readKey (fun place tree ↦ value.read format place tree) place ∅ entries) =
        .ok map' ∧
      map.Pointwise (fun value₁ value₂ ↦ value.Alike spells value₁ value₂) map' := by
  simp only [bind_eq_ok_iff, locate_eq_ok_iff, readEntries_eq_ok_iff] at hread ⊢
  obtain ⟨entries, hentries, pairs, hpairs, rfl⟩ := hread
  rcases hchange with ⟨tag, written, written', rfl, rfl, hperm, hdistinct⟩ |
    ⟨tag, written, written', rfl, rfl, hchange⟩
  · obtain rfl : written = entries := Except.ok.inj hentries
    obtain ⟨pairs', hpairs', hpairsPerm⟩ := List.perm_comp_forall₂ hperm.symm hpairs
    refine ⟨_, ⟨written', rfl, pairs', hpairs', rfl⟩, ?_⟩
    -- The keys were distinct as they are written in the tree; here they have to be so as they are read.
    have hkeys : written.map (fun entry ↦ readKey entry.1) = pairs.map fun pair ↦ .ok pair.1 :=
      map_eq_map_of_forall₂ (fun _ _ hentry ↦ hentry.1) hpairs
    have hdistinctPairs : (pairs.map Prod.fst).Nodup := by
      rw [hkeys] at hdistinct
      exact List.Nodup.of_map Except.ok (by rwa [List.map_map])
    rw [OrderedMap.foldl_insert_perm hpairsPerm.symm hdistinctPairs]
    exact .refl value.alike_refl _
  · obtain rfl : written = entries := Except.ok.inj hentries
    have hstep : ∀ entry entry' pair,
        (entry'.1 = entry.1 ∧ (entry'.2 = entry.2 ∨ value.Respells spells entry.2 entry'.2)) →
        ReadsEntry format.step readKey (fun place tree ↦ value.read format place tree) place entry pair →
        ∃ pair', ReadsEntry format.step readKey (fun place tree ↦ value.read format place tree) place entry'
          pair' ∧ pair.1 = pair'.1 ∧ value.Alike spells pair.2 pair'.2 := by
      rintro ⟨key, tree⟩ ⟨_, tree'⟩ pair ⟨rfl, hchanged⟩ ⟨hkey, hfirst⟩
      obtain ⟨value', hvalue', halike⟩ := hvalue.eq_or hchanged hfirst
      exact ⟨(pair.1, value'), ⟨hkey, hvalue'⟩, rfl, halike⟩
    obtain ⟨pairs', hpairs', halike⟩ := exists_forall₂_of_forall₂ hstep hchange hpairs
    exact ⟨_, ⟨written', rfl, pairs', hpairs', rfl⟩,
      OrderedMap.Pointwise.foldl_insert (.refl value.alike_refl ∅) halike⟩

theorem carries_byText : (Schema.byText value).Carries spells := by
  intro place tree tree' map hchange hread
  exact exists_map_of_changes hvalue hchange hread

theorem carries_byChain : (Schema.byChain value).Carries spells := by
  intro place tree tree' map hchange hread
  exact exists_map_of_changes hvalue hchange hread

end Collections

/-! ## Choices -/

theorem looseEntries_eq_ok_iff (entries : List (Tree × Tree)) (place : Path) (shapes : List (Loose × Loose)) :
    Tree.looseEntries entries place = .ok shapes ↔
      List.Forall₂ (fun entry shape ↦ entry.1.loose place = .ok shape.1 ∧
        entry.2.loose (Tree.stepOf entry.1 :: place) = .ok shape.2) entries shapes := by
  induction entries generalizing shapes with
  | nil => cases shapes <;> simp [Tree.looseEntries]
  | cons entry rest ih =>
    simp only [Tree.looseEntries, bind_eq_ok_iff, pure_eq_ok_iff, ih, List.forall₂_cons_left_iff]
    constructor
    · rintro ⟨key, hkey, value, hvalue, later, hlater, rfl⟩
      exact ⟨(key, value), later, ⟨hkey, hvalue⟩, hlater, rfl⟩
    · rintro ⟨⟨key, value⟩, later, ⟨hkey, hvalue⟩, hlater, rfl⟩
      exact ⟨key, hkey, value, hvalue, later, hlater, rfl⟩

theorem exists_loose_of_reorders {κ : Type} {readKey : Tree → Except Cause κ} {tree tree' : Tree}
    (hreorders : Reorders readKey tree tree') {place : Path} {shape : Loose}
    (hshape : format.loose place tree = .ok shape) :
    ∃ shapes shapes', .map shapes = shape ∧ format.loose place tree' = .ok (.map shapes') ∧
      shapes.Perm shapes' := by
  obtain ⟨tag, entries, entries', rfl, rfl, hperm, -⟩ := hreorders
  simp only [format, Tree.loose, bind_eq_ok_iff, pure_eq_ok_iff] at hshape ⊢
  obtain ⟨_, hname, shapes, hshapes, rfl⟩ := hshape
  rw [looseEntries_eq_ok_iff] at hshapes
  obtain ⟨shapes', hshapes', hshapesPerm⟩ := List.perm_comp_forall₂ hperm.symm hshapes
  exact ⟨shapes, shapes', rfl, ⟨(), hname, shapes', (looseEntries_eq_ok_iff _ _ _).2 hshapes', rfl⟩,
    hshapesPerm.symm⟩

theorem carries_choice {α : Type} (name : String) {choose : Loose → Option α} {view : α → Json}
    (horder : ∀ entries entries' value, entries.Perm entries' → choose (.map entries) = some value →
      choose (.map entries') = some value)
    (hshapes : ∀ shape shape' value, spells shape shape' → choose shape = some value →
      ∃ value', choose shape' = some value') :
    (Schema.choice name choose view).Carries spells := by
  intro place tree tree' value hchange hread
  rw [read_choice_eq_ok_iff] at hread
  obtain ⟨shape, hshape, hchosen⟩ := hread
  simp only [read_choice_eq_ok_iff]
  rcases hchange with hreorders | ⟨first, second, hfirst, hsecond, hspells⟩
  · obtain ⟨shapes, shapes', rfl, hshape', hperm⟩ := exists_loose_of_reorders hreorders hshape
    exact ⟨value, ⟨_, hshape', horder shapes shapes' value hperm hchosen⟩, .inl rfl⟩
  · obtain rfl : first = shape := Except.ok.inj ((hfirst place).symm.trans hshape)
    obtain ⟨value', hchosen'⟩ := hshapes first second value hspells hchosen
    exact ⟨value', ⟨second, hsecond place, hchosen'⟩, .inr ⟨first, second, hspells, hchosen, hchosen'⟩⟩

/-! ## Fields -/

/-- What a look-up finds before and after a change. -/
inductive Fields.Presents (spells : Loose → Loose → Prop) {τ : Type} (fields : Fields τ) (name : String) :
    Option (Path × Tree) → Option (Path × Tree) → Prop
  | same {found : Option (Path × Tree)} : Fields.Presents spells fields name found found
  | changed {place : Path} {tree tree' : Tree} (change : fields.RespellsField spells name tree tree') :
    Fields.Presents spells fields name (some (place, tree)) (some (place, tree'))
  | writtenOut {place : Path} {tree : Tree} (absence : fields.StandsForAbsence name tree) :
    Fields.Presents spells fields name none (some (place, tree))

/-- The look-ups of all but the first field change as the later fields permit. -/
theorem Fields.presents_rest {σ τ : Type} {fields : Fields σ} {rest : Fields τ} {name : String}
    (hname : name ∉ rest.names) {named named' : List (String × Path × Tree)}
    (hpresents : ∀ other ∈ name :: rest.names,
      fields.Presents spells other (named.lookup other) (named'.lookup other))
    (hchange : ∀ other, other ≠ name →
      fields.RespellsField spells other = rest.RespellsField spells other)
    (habsence : ∀ other, other ≠ name → fields.StandsForAbsence other = rest.StandsForAbsence other) :
    ∀ other ∈ rest.names, rest.Presents spells other (named.lookup other) (named'.lookup other) := by
  intro other hother
  have hne : other ≠ name := fun hsame ↦ hname (hsame ▸ hother)
  have hlater := hpresents other (List.mem_cons_of_mem _ hother)
  generalize named.lookup other = found, named'.lookup other = found' at hlater ⊢
  cases hlater with
  | same => exact .same
  | changed change => exact .changed (hchange other hne ▸ change)
  | writtenOut absence => exact .writtenOut (habsence other hne ▸ absence)

section Heads

variable {α τ : Type} {name : String} {schema : Schema α} {rest : Fields τ}
  {found found' : Option (Path × Tree)}

/-- What is found is read to a value. -/
def ReadsFound (schema : Schema α) (found : Option (Path × Tree)) (value : α) : Prop :=
  ∃ place tree, found = some (place, tree) ∧ schema.read format place tree = .ok value

/-- What is found is read to a value, or nothing is found and the value is the one that stands for that. -/
def ReadsDefaulted (fallback : α) (schema : Schema α) (found : Option (Path × Tree)) (value : α) : Prop :=
  found = none ∧ value = fallback ∨ ReadsFound schema found value

def ReadsOptional (schema : Schema α) (found : Option (Path × Tree)) (value : Option α) : Prop :=
  (found = none ∨ ∃ place tree, found = some (place, tree) ∧ tree.isAbsent = .ok true) ∧ value = none ∨
    ∃ place tree inner, found = some (place, tree) ∧ tree.isAbsent = .ok false ∧
      schema.read format place tree = .ok inner ∧ value = some inner

theorem Fields.readNamed_required_eq_ok_iff {place : Path} {named : List (String × Path × Tree)}
    {values : α × τ} :
    (Fields.required name schema rest).readNamed format place named = .ok values ↔
      ReadsFound schema (named.lookup name) values.1 ∧ rest.readNamed format place named = .ok values.2 :=
  Fields.readNamed_required_iff

theorem Fields.readNamed_defaulted_eq_ok_iff {fallback : α} {place : Path}
    {named : List (String × Path × Tree)} {values : α × τ} :
    (Fields.defaulted name fallback schema rest).readNamed format place named = .ok values ↔
      ReadsDefaulted fallback schema (named.lookup name) values.1 ∧
        rest.readNamed format place named = .ok values.2 :=
  Fields.readNamed_defaulted_iff

theorem Fields.readNamed_omittable_eq_ok_iff {place : Path} {named : List (String × Path × Tree)}
    {values : Option α × τ} :
    (Fields.omittable name schema rest).readNamed format place named = .ok values ↔
      ReadsOptional schema (named.lookup name) values.1 ∧ rest.readNamed format place named = .ok values.2 :=
  Fields.readNamed_omittable_iff

variable (hcarries : schema.Carries spells)
include hcarries

theorem ReadsFound.of_changed {place : Path} {tree tree' : Tree} (hchange : schema.Respells spells tree tree')
    {value : α} (hread : ReadsFound schema (some (place, tree)) value) :
    ∃ value', ReadsFound schema (some (place, tree')) value' ∧ schema.Alike spells value value' := by
  obtain ⟨_, _, hsome, hvalue⟩ := hread
  cases hsome
  obtain ⟨value', hvalue', halike⟩ := hcarries _ _ _ _ hchange hvalue
  exact ⟨value', ⟨_, _, rfl, hvalue'⟩, halike⟩

theorem Fields.Presents.required
    (hpresents : (Fields.required name schema rest).Presents spells name found found') {value : α}
    (hread : ReadsFound schema found value) :
    ∃ value', ReadsFound schema found' value' ∧ schema.Alike spells value value' := by
  cases hpresents with
  | same => exact ⟨value, hread, schema.alike_refl value⟩
  | changed hchange =>
    rw [respellsField_required_self] at hchange
    exact hread.of_changed hcarries hchange
  | writtenOut habsence =>
    rw [StandsForAbsence, if_pos rfl] at habsence
    exact habsence.elim

theorem Fields.Presents.defaulted {fallback : α}
    (hpresents : (Fields.defaulted name fallback schema rest).Presents spells name found found') {value : α}
    (hread : ReadsDefaulted fallback schema found value) :
    ∃ value', ReadsDefaulted fallback schema found' value' ∧ schema.Alike spells value value' := by
  cases hpresents with
  | same => exact ⟨value, hread, schema.alike_refl value⟩
  | changed hchange =>
    rw [respellsField_defaulted_self] at hchange
    rcases hread with ⟨hnone, -⟩ | hread
    · cases hnone
    · obtain ⟨value', hvalue', halike⟩ := hread.of_changed hcarries hchange
      exact ⟨value', .inr hvalue', halike⟩
  | writtenOut habsence =>
    rw [StandsForAbsence, if_pos rfl] at habsence
    rcases hread with ⟨-, rfl⟩ | ⟨_, _, hsome, -⟩
    · exact ⟨value, .inr ⟨_, _, rfl, habsence _⟩, schema.alike_refl value⟩
    · cases hsome

theorem Fields.Presents.omittable
    (hpresents : (Fields.omittable name schema rest).Presents spells name found found') {value : Option α}
    (hread : ReadsOptional schema found value) :
    ∃ value', ReadsOptional schema found' value' ∧
      Option.Rel (fun value value' ↦ schema.Alike spells value value') value value' := by
  have hrefl : Option.Rel (fun value value' ↦ schema.Alike spells value value') value value := by
    cases value with
    | none => exact .none
    | some value => exact .some (schema.alike_refl value)
  cases hpresents with
  | same => exact ⟨value, hread, hrefl⟩
  | changed hchange =>
    rw [RespellsField, if_pos rfl] at hchange
    obtain ⟨hpresence, hchange⟩ := hchange
    rcases hread with ⟨hnone | ⟨_, _, hsome, habsent⟩, rfl⟩ | ⟨_, _, inner, hsome, hpresent, hvalue, rfl⟩
    · cases hnone
    · cases hsome
      exact ⟨none, .inl ⟨.inr ⟨_, _, rfl, hpresence.trans habsent⟩, rfl⟩, .none⟩
    · cases hsome
      obtain ⟨inner', hvalue', halike⟩ := hcarries _ _ _ _ hchange hvalue
      exact ⟨some inner', .inr ⟨_, _, inner', rfl, hpresence.trans hpresent, hvalue', rfl⟩, .some halike⟩
  | writtenOut habsence =>
    rw [StandsForAbsence, if_pos rfl] at habsence
    rcases hread with ⟨-, rfl⟩ | ⟨_, _, _, hsome, -⟩
    · exact ⟨none, .inl ⟨.inr ⟨_, _, rfl, habsence⟩, rfl⟩, hrefl⟩
    · cases hsome

end Heads

/-- The fields of a record are read from look-ups alone, one field after the other. -/
theorem Fields.readNamed_of_presents : {τ : Type} → (fields : Fields τ) → fields.names.Nodup →
    fields.Carry spells → {place : Path} → {named named' : List (String × Path × Tree)} →
    (∀ name ∈ fields.names, fields.Presents spells name (named.lookup name) (named'.lookup name)) →
    {values : τ} → fields.readNamed format place named = .ok values →
    ∃ values', fields.readNamed format place named' = .ok values' ∧ fields.AreAlike spells values values'
  | _, .done, _, _, _, _, _, _, _, _ => ⟨(), rfl, trivial⟩
  | _, .required name schema rest, hnames, hfields, place, named, named', hpresents, values, hread => by
    obtain ⟨hname, hrest⟩ := List.nodup_cons.1 hnames
    obtain ⟨hvalue, hvalues⟩ := readNamed_required_eq_ok_iff.1 hread
    have hlater := presents_rest hname hpresents (fun _ ↦ respellsField_required_of_ne)
      fun _ ↦ standsForAbsence_required_of_ne
    obtain ⟨value', hvalue', halike⟩ := (hpresents name List.mem_cons_self).required hfields.1 hvalue
    obtain ⟨values', hvalues', halikes⟩ := rest.readNamed_of_presents hrest hfields.2 hlater hvalues
    exact ⟨(value', values'), readNamed_required_eq_ok_iff.2 ⟨hvalue', hvalues'⟩, halike, halikes⟩
  | _, .defaulted name _ schema rest, hnames, hfields, place, named, named', hpresents, values, hread => by
    obtain ⟨hname, hrest⟩ := List.nodup_cons.1 hnames
    obtain ⟨hvalue, hvalues⟩ := readNamed_defaulted_eq_ok_iff.1 hread
    have hlater := presents_rest hname hpresents (fun _ ↦ respellsField_defaulted_of_ne)
      fun _ ↦ standsForAbsence_defaulted_of_ne
    obtain ⟨value', hvalue', halike⟩ := (hpresents name List.mem_cons_self).defaulted hfields.1 hvalue
    obtain ⟨values', hvalues', halikes⟩ := rest.readNamed_of_presents hrest hfields.2 hlater hvalues
    exact ⟨(value', values'), readNamed_defaulted_eq_ok_iff.2 ⟨hvalue', hvalues'⟩, halike, halikes⟩
  | _, .omittable name schema rest, hnames, hfields, place, named, named', hpresents, values, hread => by
    obtain ⟨hname, hrest⟩ := List.nodup_cons.1 hnames
    obtain ⟨hvalue, hvalues⟩ := readNamed_omittable_eq_ok_iff.1 hread
    have hlater := presents_rest hname hpresents (fun _ ↦ respellsField_omittable_of_ne)
      fun _ ↦ standsForAbsence_omittable_of_ne
    obtain ⟨value', hvalue', halike⟩ := (hpresents name List.mem_cons_self).omittable hfields.1 hvalue
    obtain ⟨values', hvalues', halikes⟩ := rest.readNamed_of_presents hrest hfields.2 hlater hvalues
    exact ⟨(value', values'), readNamed_omittable_eq_ok_iff.2 ⟨hvalue', hvalues'⟩, halike, halikes⟩

/-! ## Checks of fields -/

theorem Carries.check {α : Type} {schema : Schema α} (hcarries : schema.Carries spells) {place : Path}
    {tree tree' : Tree} (hchange : schema.Respells spells tree tree')
    (hcheck : ((schema.read format place tree).map fun _ ↦ ()) = .ok ()) :
    ((schema.read format place tree').map fun _ ↦ ()) = .ok () := by
  rw [map_unit_eq_ok_iff] at hcheck ⊢
  obtain ⟨value, hvalue⟩ := hcheck
  exact (hcarries place tree tree' value hchange hvalue).imp fun _ ↦ And.left

/-- A changed value passes the check that the value passed. -/
theorem Fields.checkField_of_respells : {τ : Type} → (fields : Fields τ) → fields.Carry spells →
    {name : String} → {place : Path} → {tree tree' : Tree} → fields.RespellsField spells name tree tree' →
    fields.checkField format name place tree = .ok () → fields.checkField format name place tree' = .ok ()
  | _, .done, _, _, _, _, _, hchange, _ => hchange.elim
  | _, .required field schema rest, hfields, name, place, tree, tree', hchange, hcheck => by
    rw [RespellsField] at hchange
    rw [checkField] at hcheck ⊢
    by_cases hname : name = field
    · rw [if_pos hname] at hchange hcheck ⊢
      exact hfields.1.check hchange hcheck
    · rw [if_neg hname] at hchange hcheck ⊢
      exact rest.checkField_of_respells hfields.2 hchange hcheck
  | _, .defaulted field _ schema rest, hfields, name, place, tree, tree', hchange, hcheck => by
    rw [RespellsField] at hchange
    rw [checkField] at hcheck ⊢
    by_cases hname : name = field
    · rw [if_pos hname] at hchange hcheck ⊢
      exact hfields.1.check hchange hcheck
    · rw [if_neg hname] at hchange hcheck ⊢
      exact rest.checkField_of_respells hfields.2 hchange hcheck
  | _, .omittable field schema rest, hfields, name, place, tree, tree', hchange, hcheck => by
    rw [RespellsField] at hchange
    rw [checkField] at hcheck ⊢
    by_cases hname : name = field
    · rw [if_pos hname] at hchange
      simp only [if_pos hname, bind_eq_ok_iff, locate_eq_ok_iff] at hcheck ⊢
      obtain ⟨isAbsent, habsent, hcheck⟩ := hcheck
      refine ⟨isAbsent, hchange.1.trans habsent, ?_⟩
      cases isAbsent with
      | true => rfl
      | false => exact hfields.1.check hchange.2 hcheck
    · rw [if_neg hname] at hchange hcheck ⊢
      exact rest.checkField_of_respells hfields.2 hchange hcheck

/-- What stands for the absence of a field passes the check of that field, and the record has the field. -/
theorem Fields.checkField_of_standsForAbsence : {τ : Type} → (fields : Fields τ) → {name : String} →
    (place : Path) → {tree : Tree} → fields.StandsForAbsence name tree →
    name ∈ fields.names ∧ fields.checkField format name place tree = .ok ()
  | _, .done, _, _, _, habsence => habsence.elim
  | _, .required field _ rest, name, place, tree, habsence => by
    rw [StandsForAbsence] at habsence
    by_cases hname : name = field
    · rw [if_pos hname] at habsence
      exact habsence.elim
    · rw [if_neg hname] at habsence
      rw [checkField, if_neg hname]
      exact (rest.checkField_of_standsForAbsence place habsence).imp_left (List.mem_cons_of_mem _)
  | _, .defaulted field _ schema rest, name, place, tree, habsence => by
    rw [StandsForAbsence] at habsence
    rw [checkField]
    by_cases hname : name = field
    · rw [if_pos hname] at habsence ⊢
      exact ⟨hname ▸ List.mem_cons_self, (map_unit_eq_ok_iff _).2 ⟨_, habsence place⟩⟩
    · rw [if_neg hname] at habsence ⊢
      exact (rest.checkField_of_standsForAbsence place habsence).imp_left (List.mem_cons_of_mem _)
  | _, .omittable field _ rest, name, place, tree, habsence => by
    rw [StandsForAbsence] at habsence
    rw [checkField]
    by_cases hname : name = field
    · rw [if_pos hname] at habsence ⊢
      refine ⟨hname ▸ List.mem_cons_self, ?_⟩
      have hisAbsent : locate place.outer (format.isAbsent tree) = .ok true :=
        (locate_eq_ok_iff _ _ _).2 habsence
      rw [hisAbsent]
      rfl
    · rw [if_neg hname] at habsence ⊢
      exact (rest.checkField_of_standsForAbsence place habsence).imp_left (List.mem_cons_of_mem _)

/-! ## Records -/

/-- The named entries of a record with some fields. -/
def Fields.nameEntries {τ : Type} (fields : Fields τ) (isOpen : Bool) (place : Path)
    (entries : List (Tree × Tree)) : Except Fault (List (String × Path × Tree)) :=
  nameFields format fields.names isOpen (fun name place tree ↦ fields.checkField format name place tree)
    place [] entries

theorem read_record_eq_ok_iff {ρ τ : Type} {name : String} {isOpen : Bool} {fields : Fields τ}
    {build : τ → ρ} {parts : ρ → τ} {place : Path} {tree : Tree} {value : ρ} :
    (Schema.record name isOpen fields build parts).read format place tree = .ok value ↔
      ∃ entries named values, tree.asEntries ("struct " ++ name) = .ok entries ∧
        fields.nameEntries isOpen place entries = .ok named ∧
        fields.readNamed format place named = .ok values ∧ build values = value := by
  have hinOrder : format.fieldsInOrder? tree = none := rfl
  rw [read, hinOrder]
  simp only [bind_eq_ok_iff, locate_eq_ok_iff, pure_eq_ok_iff]
  constructor
  · rintro ⟨entries, hentries, named, hnamed, values, hvalues, hbuild⟩
    exact ⟨entries, named, values, hentries, hnamed, hvalues, hbuild⟩
  · rintro ⟨entries, named, values, hentries, hnamed, hvalues, hbuild⟩
    exact ⟨entries, hentries, named, hnamed, values, hvalues, hbuild⟩

/-- What is expected matters only where it is not found. -/
theorem asEntries_eq_ok {tree : Tree} {entries : List (Tree × Tree)} {expected expected' : String}
    (hentries : tree.asEntries expected = .ok entries) : tree.asEntries expected' = .ok entries := by
  cases tree with
  | mapping => exact hentries
  | _ =>
    simp only [Tree.asEntries] at hentries ⊢
    split_ifs at hentries ⊢
    exact hentries

/-- A named entry keeps its name and its place, and its value is changed as the field permits. -/
def Fields.ChangesItem (spells : Loose → Loose → Prop) {τ : Type} (fields : Fields τ)
    (item item' : String × Path × Tree) : Prop :=
  item'.1 = item.1 ∧ item'.2.1 = item.2.1 ∧
    (item'.2.2 = item.2.2 ∨ fields.RespellsField spells item.1 item.2.2 item'.2.2)

theorem Fields.presents_of_changesItem {τ : Type} {fields : Fields τ}
    {named named' : List (String × Path × Tree)}
    (hchanges : List.Forall₂ (fields.ChangesItem spells) named named') (name : String) :
    fields.Presents spells name (named.lookup name) (named'.lookup name) := by
  induction hchanges with
  | nil => exact .same
  | @cons item item' _ _ hitem _ ih =>
    obtain ⟨_, _, tree⟩ := item
    obtain ⟨known, place, tree'⟩ := item'
    obtain ⟨rfl, rfl, hchange⟩ := hitem
    rw [List.lookup_cons, List.lookup_cons]
    by_cases hsame : name = known
    · subst hsame
      rw [beq_self_eq_true]
      rcases hchange with rfl | hchange
      · exact .same
      · exact .changed hchange
    · rw [beq_false_of_ne hsame]
      exact ih

section Records

variable {τ : Type} {fields : Fields τ} {isOpen : Bool} {place : Path} {entries entries' : List (Tree × Tree)}
  {named : List (String × Path × Tree)} (hnamed : fields.nameEntries isOpen place entries = .ok named)
include hnamed

theorem Fields.exists_named_of_perm (hperm : entries.Perm entries') :
    ∃ named', fields.nameEntries isOpen place entries' = .ok named' ∧
      ∀ name, named.lookup name = named'.lookup name := by
  obtain ⟨⟨items, hitems, hopen, rfl⟩, hseen, hdistinct, hcheck⟩ := (nameFields_eq_ok_iff ..).1 hnamed
  obtain ⟨items', hitems', hitemsPerm⟩ := List.perm_comp_forall₂ hperm.symm hitems
  have hfilter := hitemsPerm.symm.filter fun item ↦ item.1 ∈ fields.names
  refine ⟨items'.filter fun item ↦ item.1 ∈ fields.names, (nameFields_eq_ok_iff ..).2 ⟨?_, ?_, ?_, ?_⟩,
    lookup_eq_of_perm hfilter hdistinct⟩
  · exact ⟨items', hitems', fun item hitem ↦ hopen item (hitemsPerm.subset hitem), rfl⟩
  · exact fun item hitem ↦ hseen item (hfilter.symm.subset hitem)
  · exact (hfilter.map Prod.fst).nodup hdistinct
  · exact fun item hitem ↦ hcheck item (hfilter.symm.subset hitem)

theorem Fields.exists_named_of_changes (hfields : fields.Carry spells)
    (hchanges : List.Forall₂ (fun entry entry' ↦ entry'.1 = entry.1 ∧ (entry'.2 = entry.2 ∨
      ∃ name, format.fieldName entry.1 = .ok name ∧ fields.RespellsField spells name entry.2 entry'.2))
      entries entries') :
    ∃ named', fields.nameEntries isOpen place entries' = .ok named' ∧
      ∀ name, fields.Presents spells name (named.lookup name) (named'.lookup name) := by
  obtain ⟨⟨items, hitems, hopen, rfl⟩, -, hdistinct, hcheck⟩ := (nameFields_eq_ok_iff ..).1 hnamed
  have hstep : ∀ entry entry' item, (entry'.1 = entry.1 ∧ (entry'.2 = entry.2 ∨
      ∃ name, format.fieldName entry.1 = .ok name ∧ fields.RespellsField spells name entry.2 entry'.2)) →
      NamesEntry format place entry item →
      ∃ item', NamesEntry format place entry' item' ∧ fields.ChangesItem spells item item' := by
    rintro ⟨_, tree⟩ ⟨key, tree'⟩ ⟨name, _⟩ ⟨rfl, hchange⟩ ⟨hname, rfl⟩
    refine ⟨(name, format.step key :: place, tree'), ⟨hname, rfl⟩, rfl, rfl, hchange.imp_right ?_⟩
    rintro ⟨other, hother, hrespells⟩
    obtain rfl : other = name := Except.ok.inj (hother.symm.trans hname)
    exact hrespells
  obtain ⟨items', hitems', hchanged⟩ := exists_forall₂_of_forall₂ hstep hchanges hitems
  have hkept : List.Forall₂ (fields.ChangesItem spells) (items.filter fun item ↦ item.1 ∈ fields.names)
      (items'.filter fun item ↦ item.1 ∈ fields.names) :=
    List.rel_filter (fun item item' hitem ↦ by simp only [hitem.1]) hchanged
  refine ⟨_, (nameFields_eq_ok_iff ..).2 ⟨⟨items', hitems', ?_, rfl⟩, fun _ _ ↦ List.not_mem_nil, ?_, ?_⟩,
    presents_of_changesItem hkept⟩
  · intro item' hitem' hunknown
    obtain ⟨item, hitem, hsame, -⟩ := exists_left_of_forall₂ hchanged hitem'
    exact hopen item hitem (hsame ▸ hunknown)
  · rwa [← map_eq_map_of_forall₂ (fun _ _ hitem ↦ hitem.1.symm) hkept]
  · rintro ⟨_, _, tree'⟩ hitem'
    obtain ⟨⟨name, valuePlace, tree⟩, hitem, rfl, rfl, rfl | hchange⟩ := exists_left_of_forall₂ hkept hitem'
    · exact hcheck _ hitem
    · exact fields.checkField_of_respells hfields hchange (hcheck _ hitem)

theorem Fields.nameEntries_of_writesOut {key value : Tree} {name : String}
    (hname : format.fieldName key = .ok name) (hnew : ∀ entry ∈ entries, format.fieldName entry.1 ≠ .ok name)
    (habsence : fields.StandsForAbsence name value) :
    fields.nameEntries isOpen place ((key, value) :: entries) =
        .ok ((name, format.step key :: place, value) :: named) ∧ named.lookup name = none := by
  obtain ⟨⟨items, hitems, hopen, rfl⟩, -, hdistinct, hcheck⟩ := (nameFields_eq_ok_iff ..).1 hnamed
  obtain ⟨hknown, hpasses⟩ := fields.checkField_of_standsForAbsence (format.step key :: place) habsence
  have hother : ∀ item ∈ items, item.1 ≠ name := by
    rintro item hitem rfl
    obtain ⟨entry, hentry, hentryName, -⟩ := exists_left_of_forall₂ hitems hitem
    exact hnew entry hentry hentryName
  constructor
  · refine (nameFields_cons_eq_ok_iff ..).2 ⟨(name, format.step key :: place, value), ⟨hname, rfl⟩,
      .inr ⟨hknown, ⟨List.not_mem_nil, hpasses⟩, _, ?_, rfl⟩⟩
    refine (nameFields_eq_ok_iff ..).2 ⟨⟨items, hitems, hopen, rfl⟩, fun item hitem ↦ ?_, hdistinct, hcheck⟩
    simpa using hother item (List.mem_of_mem_filter hitem)
  · rw [List.lookup_eq_none_iff]
    intro item hitem
    simpa using (hother item (List.mem_of_mem_filter hitem)).symm

end Records

theorem carries_record {ρ τ : Type} (name : String) (isOpen : Bool) {fields : Fields τ} {build : τ → ρ}
    {parts : ρ → τ} (hnames : fields.names.Nodup) (hfields : fields.Carry spells) :
    (Schema.record name isOpen fields build parts).Carries spells := by
  intro place tree tree' value hchange hread
  obtain ⟨entries, named, values, hentries, hnamed, hvalues, rfl⟩ := read_record_eq_ok_iff.1 hread
  -- Each kind of change is told by what the look-ups find; the values are read from these alone.
  have hnamed' : ∃ entries' named', tree'.asEntries ("struct " ++ name) = .ok entries' ∧
      fields.nameEntries isOpen place entries' = .ok named' ∧
      ∀ field, fields.Presents spells field (named.lookup field) (named'.lookup field) := by
    rcases hchange with ⟨tag, written, written', rfl, rfl, hperm, -⟩ |
      ⟨tag, written, written', rfl, rfl, hchanges⟩ |
      ⟨tag, written, key, value, field, hwritten, rfl, hfield, hnew, habsence⟩
    · cases hentries
      obtain ⟨named', hnamed', hlookup⟩ := Fields.exists_named_of_perm hnamed hperm
      exact ⟨written', named', rfl, hnamed', fun field ↦ hlookup field ▸ .same⟩
    · cases hentries
      obtain ⟨named', hnamed', hpresents⟩ := Fields.exists_named_of_changes hnamed hfields hchanges
      exact ⟨written', named', rfl, hnamed', hpresents⟩
    · obtain rfl : entries = written := Except.ok.inj (hentries.symm.trans (asEntries_eq_ok hwritten))
      obtain ⟨hnamed', habsent⟩ := Fields.nameEntries_of_writesOut hnamed hfield hnew habsence
      refine ⟨_, _, rfl, hnamed', fun other ↦ ?_⟩
      by_cases hsame : other = field
      · rw [hsame, habsent, List.lookup_cons_self]
        exact .writtenOut habsence
      · rw [List.lookup_cons, beq_false_of_ne hsame]
        exact .same
  obtain ⟨entries', named', hentries', hnamed', hpresents⟩ := hnamed'
  obtain ⟨values', hvalues', halike⟩ :=
    fields.readNamed_of_presents hnames hfields (fun field _ ↦ hpresents field) hvalues
  exact ⟨build values', read_record_eq_ok_iff.2 ⟨entries', named', values', hentries', hnamed', hvalues', rfl⟩,
    .inr ⟨values, values', rfl, rfl, halike⟩⟩

/-! ## All schemas -/

mutual

/-- A schema that understands other spellings reads a changed tree to an alike value. -/
theorem carries : {α : Type} → (schema : Schema α) → schema.Understands spells → schema.Carries spells
  | _, .text, _ => fun _ _ _ _ hchange _ ↦ hchange.elim
  | _, .chain, _ => fun _ _ _ _ hchange _ ↦ hchange.elim
  | _, .flag, _ => fun _ _ _ _ hchange _ ↦ hchange.elim
  | _, .address, _ => carries_address
  | _, .list item, hunderstands => carries_list (item.carries hunderstands)
  | _, .byText value, hunderstands => carries_byText (value.carries hunderstands)
  | _, .byChain value, hunderstands => carries_byChain (value.carries hunderstands)
  | _, .record name isOpen fields _ _, hunderstands =>
    carries_record name isOpen hunderstands.1 (fields.carry hunderstands.2)
  | _, .extension .., _ => fun _ _ _ _ hchange _ ↦ hchange.elim
  | _, .choice name _ _, hunderstands => carries_choice name hunderstands.1 hunderstands.2
termination_by structural _ schema => schema

theorem Fields.carry : {τ : Type} → (fields : Fields τ) → fields.Understand spells → fields.Carry spells
  | _, .done, _ => trivial
  | _, .required _ schema rest, hunderstands =>
    ⟨schema.carries hunderstands.1, rest.carry hunderstands.2⟩
  | _, .defaulted _ _ schema rest, hunderstands =>
    ⟨schema.carries hunderstands.1, rest.carry hunderstands.2⟩
  | _, .omittable _ schema rest, hunderstands =>
    ⟨schema.carries hunderstands.1, rest.carry hunderstands.2⟩
termination_by structural _ fields => fields

end

end

end HubRoutes.Schema
