import HubRoutes.Json.Format
import HubRoutes.Proofs.Schema.Entries

/-!
# Records in objects

The fields of a record are looked for by name among the entries of an object. What is asked of the entries, and what
is read from them, is told here without the walk over them.
-/

namespace HubRoutes.Schema

open Json (format)

variable {ρ σ τ : Type}

/-- An entry with its name and the place of its value. -/
def located (place : Path) (entry : String × Json) : String × Path × Json := (entry.1, .key entry.1 :: place, entry.2)

theorem lookup_map_located (name : String) (entries : List (String × Json)) (place : Path) :
    (entries.map (located place)).lookup name =
      (entries.lookup name).map fun document ↦ (.key name :: place, document) := by
  induction entries with
  | nil => rfl
  | cons entry rest ih =>
    obtain ⟨key, document⟩ := entry
    by_cases hsame : name = key
    · rw [hsame, List.map_cons, located, List.lookup_cons_self, List.lookup_cons_self, Option.map_some]
    · rw [List.map_cons, located, List.lookup_cons, List.lookup_cons, beq_false_of_ne hsame, ih]

theorem namesEntry_text_iff {place : Path} {entry : String × Json} {item : String × Path × Json} :
    NamesEntry format place (.text entry.1, entry.2) item ↔ located place entry = item := by
  obtain ⟨itemName, itemPlace, itemDocument⟩ := item
  have hname : format.fieldName (.text entry.1) = .ok entry.1 := rfl
  have hstep : format.step (.text entry.1) = .key entry.1 := rfl
  simp [NamesEntry, located, hname, hstep, eq_comm]

/-- The known names of an object are distinct and pass their checks, and all others are tolerated. -/
theorem nameFields_text_eq_ok_iff {known : List String} {isOpen : Bool}
    {check : String → Path → Json → Except Fault Unit} {place : Path} {entries : List (String × Json)}
    {named : List (String × Path × Json)} :
    nameFields format known isOpen check place [] (entries.map fun entry ↦ (.text entry.1, entry.2)) = .ok named ↔
      (∀ entry ∈ entries, entry.1 ∉ known → isOpen = true) ∧
      (∀ entry ∈ entries, entry.1 ∈ known → check entry.1 (.key entry.1 :: place) entry.2 = .ok ()) ∧
      ((entries.filter fun entry ↦ entry.1 ∈ known).map Prod.fst).Nodup ∧
      (entries.filter fun entry ↦ entry.1 ∈ known).map (located place) = named := by
  have hitems (items : List (String × Path × Json)) :
      List.Forall₂ (fun entry item ↦ located place entry = item) entries items ↔
        entries.map (located place) = items := by
    rw [← List.forall₂_eq_eq_eq, List.forall₂_map_left_iff]
  have hfilter : (entries.map (located place)).filter (fun item ↦ item.1 ∈ known) =
      (entries.filter fun entry ↦ entry.1 ∈ known).map (located place) := List.filter_map
  have hnames (entries : List (String × Json)) : (entries.map (located place)).map Prod.fst = entries.map Prod.fst :=
    List.map_map
  simp only [nameFields_eq_ok_iff, List.forall₂_map_left_iff, namesEntry_text_iff, hitems, exists_eq_left', hfilter]
  constructor
  · rintro ⟨⟨hopen, rfl⟩, -, hdistinct, hcheck⟩
    rw [hnames] at hdistinct
    exact ⟨List.forall_mem_map.1 hopen, fun entry hentry hknown ↦ List.forall_mem_map.1 hcheck entry
      (List.mem_filter.2 ⟨hentry, decide_eq_true hknown⟩), hdistinct, rfl⟩
  · rintro ⟨hopen, hcheck, hdistinct, rfl⟩
    rw [hnames]
    refine ⟨⟨List.forall_mem_map.2 hopen, rfl⟩, fun _ _ ↦ List.not_mem_nil, hdistinct, List.forall_mem_map.2 ?_⟩
    intro entry hentry
    obtain ⟨hmem, hknown⟩ := List.mem_filter.1 hentry
    exact hcheck entry hmem (of_decide_eq_true hknown)

/-- The entries of an object are read to the values of the fields of a record: other names than those of the fields
are tolerated, the value of each field passes its check, no field comes twice, and the values are read from what is
left. -/
structure Fields.ReadsObject (fields : Fields τ) (isOpen : Bool) (place : Path) (entries : List (String × Json))
    (values : τ) : Prop where
  known : ∀ entry ∈ entries, entry.1 ∉ fields.names → isOpen = true
  checked : ∀ entry ∈ entries, entry.1 ∈ fields.names →
    fields.checkField format entry.1 (.key entry.1 :: place) entry.2 = .ok ()
  distinct : ((entries.filter fun entry ↦ entry.1 ∈ fields.names).map Prod.fst).Nodup
  read : fields.readNamed format place ((entries.filter fun entry ↦ entry.1 ∈ fields.names).map (located place)) =
    .ok values

theorem Fields.exists_named_iff {fields : Fields τ} {isOpen : Bool} {place : Path} {entries : List (String × Json)}
    {values : τ} :
    (∃ named, nameFields format fields.names isOpen
        (fun name place document ↦ fields.checkField format name place document) place []
        (entries.map fun entry ↦ (.text entry.1, entry.2)) = .ok named ∧
      fields.readNamed format place named = .ok values) ↔ fields.ReadsObject isOpen place entries values := by
  simp only [nameFields_text_eq_ok_iff]
  constructor
  · rintro ⟨_, ⟨hknown, hchecked, hdistinct, rfl⟩, hread⟩
    exact ⟨hknown, hchecked, hdistinct, hread⟩
  · rintro ⟨hknown, hchecked, hdistinct, hread⟩
    exact ⟨_, ⟨hknown, hchecked, hdistinct, rfl⟩, hread⟩

/-- A record is read from an object if its fields are. -/
theorem read_record_object_iff {word : String} {isOpen : Bool} {fields : Fields τ} {build : τ → ρ} {parts : ρ → τ}
    {place : Path} {entries : List (String × Json)} {value : ρ} :
    (Schema.record word isOpen fields build parts).read format place (.object entries) = .ok value ↔
      ∃ values, fields.ReadsObject isOpen place entries values ∧ build values = value := by
  have hinOrder : format.fieldsInOrder? (.object entries) = none := rfl
  have hentries : locate place (format.entries ("struct " ++ word) (.object entries)) =
      .ok (entries.map fun entry ↦ (.text entry.1, entry.2)) := rfl
  rw [Schema.read, hinOrder]
  simp only [hentries, ok_bind, bind_eq_ok_iff, pure_eq_ok_iff, ← Fields.exists_named_iff]
  constructor
  · rintro ⟨named, hnamed, values, hvalues, hbuild⟩
    exact ⟨values, ⟨named, hnamed, hvalues⟩, hbuild⟩
  · rintro ⟨values, ⟨named, hnamed, hvalues⟩, hbuild⟩
    exact ⟨named, hnamed, values, hvalues, hbuild⟩

/-- A record with the fields of another is read from an object if both kinds of fields are, each of them apart. -/
theorem read_extension_object_iff {word : String} {base : Fields σ} {own : Fields τ} {build : σ → τ → ρ}
    {parts : ρ → σ × τ} {place : Path} {entries : List (String × Json)} {value : ρ} :
    (Schema.extension word base own build parts).read format place (.object entries) = .ok value ↔
      ∃ baseValues ownValues, base.ReadsObject true place entries baseValues ∧
        own.ReadsObject true place entries ownValues ∧ build baseValues ownValues = value := by
  have hentries : locate place (format.entries ("struct " ++ word) (.object entries)) =
      .ok (entries.map fun entry ↦ (.text entry.1, entry.2)) := rfl
  rw [Schema.read]
  simp only [hentries, ok_bind, bind_eq_ok_iff, pure_eq_ok_iff, ← Fields.exists_named_iff]
  constructor
  · rintro ⟨ownNamed, hownNamed, ownValues, hownValues, baseNamed, hbaseNamed, baseValues, hbaseValues, hbuild⟩
    exact ⟨baseValues, ownValues, ⟨baseNamed, hbaseNamed, hbaseValues⟩, ⟨ownNamed, hownNamed, hownValues⟩, hbuild⟩
  · rintro ⟨baseValues, ownValues, ⟨baseNamed, hbaseNamed, hbaseValues⟩, ⟨ownNamed, hownNamed, hownValues⟩, hbuild⟩
    exact ⟨ownNamed, hownNamed, ownValues, hownValues, baseNamed, hbaseNamed, baseValues, hbaseValues, hbuild⟩

end HubRoutes.Schema
