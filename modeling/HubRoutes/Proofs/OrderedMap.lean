import HubRoutes.Chain
import HubRoutes.OrderedMap
import Mathlib.Data.List.Forall2
import Mathlib.Data.List.Nodup
import Mathlib.Data.List.Perm.Basic

/-!
# Maps and their answers

A map is told by its answers: two maps that answer alike are one. What is answered at a key is the last value
that was written there, so the order in which entries with distinct keys are written does not matter. Maps with
values of two types are compared key by key.
-/

namespace HubRoutes.OrderedMap

variable {κ α β : Type} [Ord κ]

/-! ## Equal answers -/

theorem findEntry_cons_of_gt {key : κ} {head : κ × α} {rest : List (κ × α)}
    (horder : compare key head.1 = .gt) : findEntry key (head :: rest) = findEntry key rest := by
  rw [findEntry, horder]

theorem findEntry_cons_self [Std.TransOrd κ] (head : κ × α) (rest : List (κ × α)) :
    findEntry head.1 (head :: rest) = some head.2 := by
  simp [findEntry]

section Answers

variable [Std.TransOrd κ] [Std.LawfulEqOrd κ]

/-- The first entry is told by the answers: at any smaller key there is none. -/
theorem head_eq_of_findEntry_eq {first second : κ × α} {rest other : List (κ × α)}
    (hequal : ∀ key, findEntry key (first :: rest) = findEntry key (second :: other)) : first = second := by
  have hfirst : findEntry first.1 (second :: other) = some first.2 := by
    rw [← hequal, findEntry_cons_self]
  have hsecond : findEntry second.1 (first :: rest) = some second.2 := by
    rw [hequal, findEntry_cons_self]
  cases horder : compare first.1 second.1 with
  | lt => simp [findEntry, horder] at hfirst
  | gt => simp [findEntry, Std.OrientedCmp.lt_of_gt horder] at hsecond
  | eq =>
    have hvalue : second.2 = first.2 := by simpa [findEntry, horder] using hfirst
    exact Prod.ext (Std.LawfulEqOrd.eq_of_compare horder) hvalue.symm

/-- Ascending lists of entries are equal if every look-up finds the same in both. -/
theorem eq_of_findEntry_eq {first second : List (κ × α)}
    (hfirst : first.Pairwise fun entry other ↦ compare entry.1 other.1 = .lt)
    (hsecond : second.Pairwise fun entry other ↦ compare entry.1 other.1 = .lt)
    (hequal : ∀ key, findEntry key first = findEntry key second) : first = second := by
  induction first generalizing second with
  | nil =>
    cases second with
    | nil => rfl
    | cons head rest =>
      have hnone := hequal head.1
      rw [findEntry_cons_self] at hnone
      cases hnone
  | cons head rest ih =>
    cases second with
    | nil =>
      have hnone := hequal head.1
      rw [findEntry_cons_self] at hnone
      cases hnone
    | cons other later =>
      obtain rfl := head_eq_of_findEntry_eq hequal
      have ⟨hbelow, hrest⟩ := List.pairwise_cons.1 hfirst
      have ⟨hbelow', hlater⟩ := List.pairwise_cons.1 hsecond
      have htail : ∀ key, findEntry key rest = findEntry key later := by
        intro key
        cases horder : compare key head.1 with
        | gt => rw [← findEntry_cons_of_gt horder, hequal, findEntry_cons_of_gt horder]
        | lt =>
          rw [findEntry_eq_none fun entry hentry ↦ Std.TransCmp.lt_trans horder (hbelow entry hentry),
            findEntry_eq_none fun entry hentry ↦ Std.TransCmp.lt_trans horder (hbelow' entry hentry)]
        | eq =>
          obtain rfl := Std.LawfulEqOrd.eq_of_compare horder
          rw [findEntry_eq_none hbelow, findEntry_eq_none hbelow']
      rw [ih hrest hlater htail]

/-- Maps that answer alike at every key are equal. -/
theorem ext_find? {first second : OrderedMap κ α} (hequal : ∀ key, first.find? key = second.find? key) :
    first = second :=
  ext (eq_of_findEntry_eq first.ascending second.ascending hequal)

/-- A map answers a value at a key exactly if it lists the two as an entry. -/
theorem find?_eq_some_iff {map : OrderedMap κ α} {key : κ} {value : α} :
    map.find? key = some value ↔ (key, value) ∈ map.entries := by
  refine ⟨mem_entries_of_find?, fun hentry ↦ ?_⟩
  obtain ⟨entries, hascending⟩ := map
  change findEntry key entries = some value
  induction entries with
  | nil => cases hentry
  | cons head rest ih =>
    obtain ⟨hbelow, hrest⟩ := List.pairwise_cons.1 hascending
    obtain rfl | hlater := List.mem_cons.1 hentry
    · exact findEntry_cons_self (key, value) rest
    · rw [findEntry_cons_of_gt (Std.OrientedCmp.gt_of_lt (hbelow _ hlater))]
      exact ih hrest hlater

theorem mem_keys_iff {map : OrderedMap κ α} {key : κ} :
    key ∈ map.keys ↔ ∃ value, map.find? key = some value := by
  simp [keys, find?_eq_some_iff]

end Answers

/-! ## The order of keys -/

/-- A map lists each key once. -/
theorem nodup_keys [Std.TransOrd κ] (map : OrderedMap κ α) : map.keys.Nodup := by
  apply map.pairwise_keys.imp
  rintro key _ hless rfl
  rw [Std.ReflOrd.compare_self] at hless
  cases hless

/-- The texts that are keys of a map are listed in the order of their code points. -/
theorem pairwise_keys_text {α : Type} (map : OrderedMap String α) :
    map.keys.Pairwise fun first second ↦ first.toList < second.toList := by
  apply map.pairwise_keys.imp
  intro first second hless
  exact String.lt_iff.1 (compareOfLessAndEq_eq_lt.1 hless)

/-- The chains that are keys of a map are listed in the order of their numbers. -/
theorem pairwise_keys_chain {α : Type} (map : OrderedMap ChainId α) :
    map.keys.Pairwise fun first second ↦ first.toNat < second.toNat := by
  apply map.pairwise_keys.imp
  intro first second hless
  exact UInt64.lt_iff_toNat_lt.1 (compareOfLessAndEq_eq_lt.1 hless)

/-! ## The order of writing -/

section Listing

variable [Std.LawfulEqOrd κ]

/-- A new key is added to the entries, wherever its place is. -/
theorem insertEntry_perm {key : κ} {value : α} {entries : List (κ × α)}
    (hnew : key ∉ entries.map Prod.fst) : (insertEntry key value entries).Perm ((key, value) :: entries) := by
  induction entries with
  | nil => exact .refl _
  | cons head rest ih =>
    rw [List.map_cons, List.mem_cons, not_or] at hnew
    obtain ⟨hhead, hrest⟩ := hnew
    rw [insertEntry]
    split
    next => exact .refl _
    next hequal => exact absurd (Std.LawfulEqOrd.eq_of_compare hequal) hhead
    next => exact ((ih hrest).cons head).trans (.swap ..)

/-- Entries with distinct keys are all listed once they are written. -/
theorem entries_foldl_insert_perm [Std.TransOrd κ] {entries : List (κ × α)} (map : OrderedMap κ α)
    (hdistinct : ((map.entries ++ entries).map Prod.fst).Nodup) :
    (entries.foldl (fun map entry ↦ map.insert entry.1 entry.2) map).entries.Perm (map.entries ++ entries) := by
  induction entries generalizing map with
  | nil => rw [List.foldl_nil, List.append_nil]
  | cons entry rest ih =>
    have hmiddle : (map.entries ++ entry :: rest).Perm (entry :: map.entries ++ rest) := List.perm_middle
    have hdistinct' := (hmiddle.map Prod.fst).nodup hdistinct
    rw [List.cons_append, List.map_cons, List.nodup_cons, List.map_append, List.mem_append, not_or] at hdistinct'
    have hlisted : (map.insert entry.1 entry.2).entries.Perm (entry :: map.entries) :=
      insertEntry_perm hdistinct'.1.1
    have hwritten := hlisted.append_right rest
    exact (ih _ (((hwritten.trans hmiddle.symm).map Prod.fst).symm.nodup hdistinct)).trans
      (hwritten.trans hmiddle.symm)

end Listing

section Writing

variable [Std.TransOrd κ] [Std.LawfulEqOrd κ] [DecidableEq κ]

theorem mem_keys_insert {map : OrderedMap κ α} {key other : κ} {value : α} :
    other ∈ (map.insert key value).keys ↔ other = key ∨ other ∈ map.keys := by
  rw [mem_keys_iff, mem_keys_iff, find?_insert]
  by_cases hsame : other = key <;> simp [hsame]

/-- Writing once more what a map answers leaves the map as it is. -/
theorem insert_of_find? {map : OrderedMap κ α} {key : κ} {value : α} (hfound : map.find? key = some value) :
    map.insert key value = map := by
  apply ext_find?
  intro asked
  rw [find?_insert]
  by_cases hsame : asked = key
  · rw [if_pos hsame, hsame, hfound]
  · rw [if_neg hsame]

/-- After a number of writes a map answers what was written last at a key, or as before. -/
theorem find?_foldl_insert [BEq κ] [LawfulBEq κ] (entries : List (κ × α)) (map : OrderedMap κ α) (key : κ) :
    (entries.foldl (fun map entry ↦ map.insert entry.1 entry.2) map).find? key =
      (entries.reverse.lookup key).or (map.find? key) := by
  induction entries generalizing map with
  | nil => rfl
  | cons entry rest ih =>
    rw [List.foldl_cons, ih, find?_insert, List.reverse_cons, List.lookup_append, Option.or_assoc,
      List.lookup_cons]
    by_cases hsame : key = entry.1
    · rw [if_pos hsame, hsame, beq_self_eq_true, Option.some_or]
    · rw [if_neg hsame, beq_false_of_ne hsame]
      rfl

/-- A map of a list answers the last value that the list has for a key. -/
theorem find?_ofList [BEq κ] [LawfulBEq κ] (entries : List (κ × α)) (key : κ) :
    (ofList entries).find? key = entries.reverse.lookup key :=
  (find?_foldl_insert entries empty key).trans Option.or_none

/-- Writes at different keys may change places. -/
theorem insert_comm (map : OrderedMap κ α) {key other : κ} (hne : key ≠ other) (value value' : α) :
    (map.insert key value).insert other value' = (map.insert other value').insert key value := by
  apply ext_find?
  intro asked
  simp only [find?_insert]
  by_cases hkey : asked = key
  · rw [if_neg (hkey ▸ hne), if_pos hkey, if_pos hkey]
  · rw [if_neg hkey, if_neg hkey]

/-- Entries with distinct keys may be written in any order. -/
theorem foldl_insert_perm {entries entries' : List (κ × α)} (hperm : entries.Perm entries')
    (hdistinct : (entries.map Prod.fst).Nodup) (map : OrderedMap κ α) :
    entries.foldl (fun map entry ↦ map.insert entry.1 entry.2) map =
      entries'.foldl (fun map entry ↦ map.insert entry.1 entry.2) map := by
  apply hperm.foldl_eq'
  intro first hfirst second hsecond written
  by_cases hsame : first = second
  · rw [hsame]
  · apply insert_comm
    exact fun hkey ↦ hsame (List.inj_on_of_nodup_map hdistinct hfirst hsecond hkey)

end Writing

/-! ## Maps that are related key by key -/

/-- Two maps have the same keys, and related values at each of them. -/
def Pointwise (R : α → β → Prop) (first : OrderedMap κ α) (second : OrderedMap κ β) : Prop :=
  List.Forall₂ (fun entry other ↦ entry.1 = other.1 ∧ R entry.2 other.2) first.entries second.entries

section Related

variable {R : α → β → Prop} {first : OrderedMap κ α} {second : OrderedMap κ β}

theorem Pointwise.rel_find? (hrelated : first.Pointwise R second) (key : κ) :
    Option.Rel R (first.find? key) (second.find? key) := by
  unfold Pointwise at hrelated
  unfold find?
  generalize first.entries = entries, second.entries = others at hrelated ⊢
  induction hrelated with
  | nil => exact .none
  | cons hhead _ ih =>
    simp only [findEntry, hhead.1]
    split
    · exact .none
    · exact .some hhead.2
    · exact ih

theorem Pointwise.forall_entries {property : κ → β → Prop} (hrelated : first.Pointwise R second)
    (hsecond : ∀ entry ∈ second.entries, property entry.1 entry.2) {property' : κ → α → Prop}
    (hcarry : ∀ key value value', R value value' → property key value' → property' key value) :
    ∀ entry ∈ first.entries, property' entry.1 entry.2 := by
  unfold Pointwise at hrelated
  generalize first.entries = entries, second.entries = others at hrelated hsecond ⊢
  induction hrelated with
  | nil => nofun
  | cons hhead _ ih =>
    obtain ⟨hproperty, hlater⟩ := List.forall_mem_cons.1 hsecond
    refine List.forall_mem_cons.2 ⟨?_, ih hlater⟩
    rw [hhead.1]
    exact hcarry _ _ _ hhead.2 hproperty

/-- Writing related values at one key keeps two maps related. -/
theorem Pointwise.insert [Std.TransOrd κ] (hrelated : first.Pointwise R second) (key : κ) {value : α}
    {value' : β} (hvalue : R value value') :
    (first.insert key value).Pointwise R (second.insert key value') := by
  unfold Pointwise at hrelated ⊢
  rw [entries_insert, entries_insert]
  generalize first.entries = entries, second.entries = others at hrelated ⊢
  induction hrelated with
  | nil => exact .cons ⟨rfl, hvalue⟩ .nil
  | cons hhead hrest ih =>
    simp only [insertEntry, hhead.1]
    split
    · exact .cons ⟨rfl, hvalue⟩ (.cons hhead hrest)
    · exact .cons ⟨rfl, hvalue⟩ hrest
    · exact .cons hhead ih

theorem Pointwise.foldl_insert [Std.TransOrd κ] (hrelated : first.Pointwise R second)
    {entries : List (κ × α)} {others : List (κ × β)}
    (hentries : List.Forall₂ (fun entry other ↦ entry.1 = other.1 ∧ R entry.2 other.2) entries others) :
    (entries.foldl (fun map entry ↦ map.insert entry.1 entry.2) first).Pointwise R
      (others.foldl (fun map entry ↦ map.insert entry.1 entry.2) second) := by
  induction hentries generalizing first second with
  | nil => exact hrelated
  | cons hhead _ ih =>
    rw [List.foldl_cons, List.foldl_cons, hhead.1]
    exact ih (hrelated.insert _ hhead.2)

theorem Pointwise.refl {R : α → α → Prop} (hrefl : ∀ value, R value value) (map : OrderedMap κ α) :
    map.Pointwise R map :=
  List.forall₂_same.2 fun entry _ ↦ ⟨rfl, hrefl entry.2⟩

/-- Maps with the same keys and equal values are equal. -/
theorem Pointwise.eq {R : α → α → Prop} (heq : ∀ value value', R value value' → value' = value)
    {map map' : OrderedMap κ α} (hrelated : map.Pointwise R map') : map' = map := by
  apply ext
  rw [← List.forall₂_eq_eq_eq]
  exact hrelated.flip.imp fun entry other hsame ↦ Prod.ext hsame.1.symm (heq _ _ hsame.2)

end Related

end HubRoutes.OrderedMap
