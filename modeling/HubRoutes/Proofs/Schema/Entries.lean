import HubRoutes.Proofs.List
import HubRoutes.Proofs.Result
import HubRoutes.Schema.Reading

/-!
# What lists, maps and records are read to

Items, entries and named fields are read one after the other. Here the results of these walks are told at once:
each item of a list is read, the entries of a map are read one by one and then written in their order, and the
named entries of a record are those with known names, which are distinct and pass their checks. The values of the
fields are read from what is found under their names. What is known to have been read can then be moved about,
entry by entry.
-/

namespace HubRoutes.Schema

variable {ν α κ : Type}

theorem locate_eq_ok_iff (place : Path) (result : Except Cause α) (value : α) :
    locate place result = .ok value ↔ result = .ok value :=
  mapError_eq_ok_iff

theorem map_unit_eq_ok_iff (result : Except Fault α) :
    (result.map fun _ ↦ ()) = .ok () ↔ ∃ value, result = .ok value := by
  simp only [map_eq_ok_iff, and_true]

/-! ## Lists -/

theorem exists_read_of_mem_items {read : Path → ν → Except Fault α} {place : Path} {index : Nat}
    {items : List ν} {values : List α} (hread : readItems read place index items = .ok values) :
    ∀ item ∈ items, ∃ place value, read place item = .ok value := by
  induction items generalizing index values with
  | nil => nofun
  | cons item rest ih =>
    simp only [readItems, bind_eq_ok_iff] at hread
    obtain ⟨value, hvalue, values, hvalues, -⟩ := hread
    exact List.forall_mem_cons.2 ⟨⟨_, value, hvalue⟩, ih hvalues⟩

/-! ## Maps -/

/-- An entry is read to a key and a value. -/
def ReadsEntry (step : ν → Step) (readKey : ν → Except Cause κ) (read : Path → ν → Except Fault α)
    (place : Path) (entry : ν × ν) (pair : κ × α) : Prop :=
  readKey entry.1 = .ok pair.1 ∧ read (step entry.1 :: place) entry.2 = .ok pair.2

theorem readEntries_eq_ok_iff [Ord κ] [Std.TransOrd κ] (step : ν → Step) (readKey : ν → Except Cause κ)
    (read : Path → ν → Except Fault α) (place : Path) (map : OrderedMap κ α) (entries : List (ν × ν))
    (result : OrderedMap κ α) :
    readEntries step readKey read place map entries = .ok result ↔
      ∃ pairs, List.Forall₂ (ReadsEntry step readKey read place) entries pairs ∧
        pairs.foldl (fun map pair ↦ map.insert pair.1 pair.2) map = result := by
  induction entries generalizing map with
  | nil => simp [readEntries]
  | cons entry rest ih =>
    simp only [readEntries, bind_eq_ok_iff, locate_eq_ok_iff, ih, List.forall₂_cons_left_iff]
    constructor
    · rintro ⟨key, hkey, value, hvalue, pairs, hrest, hresult⟩
      exact ⟨(key, value) :: pairs, ⟨(key, value), pairs, ⟨hkey, hvalue⟩, hrest, rfl⟩, hresult⟩
    · rintro ⟨_, ⟨pair, pairs, ⟨hkey, hvalue⟩, hrest, rfl⟩, hresult⟩
      exact ⟨pair.1, hkey, pair.2, hvalue, pairs, hrest, hresult⟩

/-! ## Named fields -/

/-- The names of the fields that may not be missing. -/
def Fields.requiredNames : {τ : Type} → Fields τ → List String
  | _, .done => []
  | _, .required name _ rest => name :: rest.requiredNames
  | _, .defaulted _ _ _ rest => rest.requiredNames
  | _, .omittable _ _ rest => rest.requiredNames

section Heads

variable {τ : Type} {format : Format ν} {name : String} {schema : Schema α} {rest : Fields τ} {place : Path}
  {named : List (String × Path × ν)}

theorem Fields.readNamed_required_iff {values : α × τ} :
    (Fields.required name schema rest).readNamed format place named = .ok values ↔
      (∃ valuePlace node, named.lookup name = some (valuePlace, node) ∧
        schema.read format valuePlace node = .ok values.1) ∧
      rest.readNamed format place named = .ok values.2 := by
  obtain ⟨value, values⟩ := values
  rw [readNamed]
  cases hfound : named.lookup name with
  | none => simp
  | some found =>
    simp only [bind_eq_ok_iff, pure_eq_ok_iff, Option.some.injEq, Prod.mk.injEq]
    constructor
    · rintro ⟨_, hvalue, _, hvalues, rfl, rfl⟩
      exact ⟨⟨_, _, rfl, hvalue⟩, hvalues⟩
    · rintro ⟨⟨_, _, rfl, hvalue⟩, hvalues⟩
      exact ⟨_, hvalue, _, hvalues, rfl, rfl⟩

theorem Fields.readNamed_defaulted_iff {fallback : α} {values : α × τ} :
    (Fields.defaulted name fallback schema rest).readNamed format place named = .ok values ↔
      (named.lookup name = none ∧ values.1 = fallback ∨
        ∃ valuePlace node, named.lookup name = some (valuePlace, node) ∧
          schema.read format valuePlace node = .ok values.1) ∧
      rest.readNamed format place named = .ok values.2 := by
  obtain ⟨value, values⟩ := values
  rw [readNamed]
  cases hfound : named.lookup name with
  | none =>
    simp only [bind_eq_ok_iff, pure_eq_ok_iff, Prod.mk.injEq]
    constructor
    · rintro ⟨_, hvalues, rfl, rfl⟩
      exact ⟨.inl ⟨trivial, rfl⟩, hvalues⟩
    · rintro ⟨⟨-, rfl⟩ | ⟨_, _, hnone, -⟩, hvalues⟩
      · exact ⟨_, hvalues, rfl, rfl⟩
      · cases hnone
  | some found =>
    simp only [bind_eq_ok_iff, pure_eq_ok_iff, Option.some.injEq, Prod.mk.injEq]
    constructor
    · rintro ⟨_, hvalue, _, hvalues, rfl, rfl⟩
      exact ⟨.inr ⟨_, _, rfl, hvalue⟩, hvalues⟩
    · rintro ⟨⟨hnone, -⟩ | ⟨_, _, rfl, hvalue⟩, hvalues⟩
      · cases hnone
      · exact ⟨_, hvalue, _, hvalues, rfl, rfl⟩

theorem Fields.readNamed_omittable_iff {values : Option α × τ} :
    (Fields.omittable name schema rest).readNamed format place named = .ok values ↔
      ((named.lookup name = none ∨ ∃ valuePlace node, named.lookup name = some (valuePlace, node) ∧
            format.isAbsent node = .ok true) ∧ values.1 = none ∨
          ∃ valuePlace node value, named.lookup name = some (valuePlace, node) ∧
            format.isAbsent node = .ok false ∧ schema.read format valuePlace node = .ok value ∧
            values.1 = some value) ∧
        rest.readNamed format place named = .ok values.2 := by
  obtain ⟨value, values⟩ := values
  rw [readNamed]
  cases hfound : named.lookup name with
  | none =>
    simp only [bind_eq_ok_iff, pure_eq_ok_iff, Prod.mk.injEq]
    constructor
    · rintro ⟨_, hvalues, rfl, rfl⟩
      exact ⟨.inl ⟨.inl trivial, rfl⟩, hvalues⟩
    · rintro ⟨⟨-, rfl⟩ | ⟨_, _, _, hnone, -⟩, hvalues⟩
      · exact ⟨_, hvalues, rfl, rfl⟩
      · cases hnone
  | some found =>
    obtain ⟨valuePlace, node⟩ := found
    simp only [bind_eq_ok_iff, locate_eq_ok_iff]
    constructor
    · rintro ⟨isAbsent, habsent, hread⟩
      cases isAbsent with
      | true =>
        simp only [if_true, bind_eq_ok_iff, pure_eq_ok_iff, Prod.mk.injEq] at hread
        obtain ⟨_, hvalues, rfl, rfl⟩ := hread
        exact ⟨.inl ⟨.inr ⟨_, _, rfl, habsent⟩, rfl⟩, hvalues⟩
      | false =>
        simp only [Bool.false_eq_true, if_false, bind_eq_ok_iff, pure_eq_ok_iff, Prod.mk.injEq] at hread
        obtain ⟨_, hvalue, _, hvalues, rfl, rfl⟩ := hread
        exact ⟨.inr ⟨_, _, _, rfl, habsent, hvalue, rfl⟩, hvalues⟩
    · rintro ⟨⟨hnone | ⟨_, _, hsome, habsent⟩, rfl⟩ | ⟨_, _, inner, hsome, habsent, hvalue, rfl⟩, hvalues⟩
      · cases hnone
      · cases hsome
        refine ⟨true, habsent, ?_⟩
        simp [hvalues]
      · cases hsome
        refine ⟨false, habsent, ?_⟩
        simp [hvalue, hvalues]

end Heads

/-- Fields are only read if none is missing that is required. -/
theorem Fields.exists_lookup_of_readNamed {format : Format ν} : {τ : Type} → (fields : Fields τ) → {place : Path} →
    {named : List (String × Path × ν)} → {values : τ} → fields.readNamed format place named = .ok values →
    ∀ name ∈ fields.requiredNames, ∃ found, named.lookup name = some found
  | _, .done, _, _, _, _ => nofun
  | _, .required name schema rest, _, _, _, hread => by
    obtain ⟨⟨place, node, hfound, -⟩, hvalues⟩ := readNamed_required_iff.1 hread
    exact List.forall_mem_cons.2 ⟨⟨_, hfound⟩, rest.exists_lookup_of_readNamed hvalues⟩
  | _, .defaulted _ _ _ rest, _, _, _, hread => rest.exists_lookup_of_readNamed (readNamed_defaulted_iff.1 hread).2
  | _, .omittable _ _ rest, _, _, _, hread => rest.exists_lookup_of_readNamed (readNamed_omittable_iff.1 hread).2

/-- An entry of a record with its name and the place of its value. -/
def NamesEntry (format : Format ν) (place : Path) (entry : ν × ν) (item : String × Path × ν) : Prop :=
  format.fieldName entry.1 = .ok item.1 ∧ item.2 = (format.step entry.1 :: place, entry.2)

/-- A known name is checked and remembered; an unknown one is passed over if the record is open. -/
theorem nameFields_cons_eq_ok_iff (format : Format ν) (known : List String) (isOpen : Bool)
    (check : String → Path → ν → Except Fault Unit) (place : Path) (seen : List String) (entry : ν × ν)
    (rest : List (ν × ν)) (named : List (String × Path × ν)) :
    nameFields format known isOpen check place seen (entry :: rest) = .ok named ↔
      ∃ item, NamesEntry format place entry item ∧
        (item.1 ∉ known ∧ isOpen = true ∧
            nameFields format known isOpen check place seen rest = .ok named ∨
          item.1 ∈ known ∧ (item.1 ∉ seen ∧ check item.1 item.2.1 item.2.2 = .ok ()) ∧
            ∃ later, nameFields format known isOpen check place (item.1 :: seen) rest = .ok later ∧
              item :: later = named) := by
  have hitem (property : String × Path × ν → Prop) :
      (∃ item, NamesEntry format place entry item ∧ property item) ↔
        ∃ name, format.fieldName entry.1 = .ok name ∧
          property (name, format.step entry.1 :: place, entry.2) := by
    constructor
    · rintro ⟨⟨name, _⟩, ⟨hname, rfl⟩, hproperty⟩
      exact ⟨name, hname, hproperty⟩
    · rintro ⟨name, hname, hproperty⟩
      exact ⟨_, ⟨hname, rfl⟩, hproperty⟩
  rw [hitem]
  simp only [nameFields, bind_eq_ok_iff, locate_eq_ok_iff]
  apply exists_congr
  intro name
  apply and_congr_right
  intro _
  by_cases hknown : name ∈ known
  · by_cases hseen : name ∈ seen
    · simp [hknown, hseen]
    · simp only [hknown, hseen, not_true_eq_false, if_false, bind_eq_ok_iff, pure_eq_ok_iff,
        not_false_eq_true, true_and, false_and, false_or]
      constructor
      · rintro ⟨_, hrest⟩
        exact hrest
      · intro hrest
        exact ⟨(), hrest⟩
  · by_cases hopen : isOpen = true
    · simp [hknown, hopen]
    · simp [hknown, hopen]

/-- The named entries of a record are those with known names. They are distinct, and all others are tolerated. -/
theorem nameFields_eq_ok_iff (format : Format ν) (known : List String) (isOpen : Bool)
    (check : String → Path → ν → Except Fault Unit) (place : Path) (seen : List String)
    (entries : List (ν × ν)) (named : List (String × Path × ν)) :
    nameFields format known isOpen check place seen entries = .ok named ↔
      (∃ items, List.Forall₂ (NamesEntry format place) entries items ∧
        (∀ item ∈ items, item.1 ∉ known → isOpen = true) ∧
        (items.filter fun item ↦ item.1 ∈ known) = named) ∧
      (∀ item ∈ named, item.1 ∉ seen) ∧ (named.map Prod.fst).Nodup ∧
        ∀ item ∈ named, check item.1 item.2.1 item.2.2 = .ok () := by
  induction entries generalizing seen named with
  | nil =>
    simp only [nameFields, Except.ok.injEq, List.forall₂_nil_left_iff, exists_eq_left]
    constructor
    · rintro rfl
      exact ⟨⟨nofun, rfl⟩, nofun, .nil, nofun⟩
    · rintro ⟨⟨-, hnamed⟩, -⟩
      exact hnamed
  | cons entry rest ih =>
    simp only [nameFields_cons_eq_ok_iff, ih, List.forall₂_cons_left_iff]
    constructor
    · rintro ⟨item, hitem, ⟨hunknown, hopen, ⟨items, hitems, hopens, hfilter⟩, hnamed⟩ |
        ⟨hknown, hhead, later, ⟨⟨items, hitems, hopens, hfilter⟩, hlater⟩, rfl⟩⟩
      · refine ⟨⟨item :: items, ⟨item, items, hitem, hitems, rfl⟩,
          List.forall_mem_cons.2 ⟨fun _ ↦ hopen, hopens⟩, ?_⟩, hnamed⟩
        rw [List.filter_cons_of_neg (by simpa using hunknown), hfilter]
      · refine ⟨⟨item :: items, ⟨item, items, hitem, hitems, rfl⟩,
          List.forall_mem_cons.2 ⟨fun hunknown ↦ absurd hknown hunknown, hopens⟩, ?_⟩,
          (new_distinct_forall_cons_iff Prod.fst _ seen item later).2 ⟨hhead, hlater⟩⟩
        rw [List.filter_cons_of_pos (by simpa using hknown), hfilter]
    -- An unknown entry leaves nothing behind but the demand that the record is open.
    · rintro ⟨⟨_, ⟨item, items, hitem, hitems, rfl⟩, hopens, rfl⟩, hnamed⟩
      obtain ⟨hopen, hopens⟩ := List.forall_mem_cons.1 hopens
      refine ⟨item, hitem, ?_⟩
      by_cases hknown : item.1 ∈ known
      · rw [List.filter_cons_of_pos (by simpa using hknown)] at hnamed ⊢
        obtain ⟨hhead, hlater⟩ := (new_distinct_forall_cons_iff Prod.fst
          (fun item ↦ check item.1 item.2.1 item.2.2 = .ok ()) seen item _).1 hnamed
        exact .inr ⟨hknown, hhead, _, ⟨⟨items, hitems, hopens, rfl⟩, hlater⟩, rfl⟩
      · rw [List.filter_cons_of_neg (by simpa using hknown)] at hnamed ⊢
        exact .inl ⟨hknown, hopen hknown, ⟨items, hitems, hopens, rfl⟩, hnamed⟩

end HubRoutes.Schema
