/-!
# Ordered maps

A finite map from ordered keys, held as its entries in ascending order of the keys. Each map has
exactly one such list, so two maps are equal as soon as they answer every look-up alike. Writing a
key again replaces its value.
-/

namespace HubRoutes

/-- A finite map whose entries are listed by strictly ascending key. -/
structure OrderedMap (κ : Type) (α : Type) [Ord κ] where
  entries : List (κ × α)
  ascending : entries.Pairwise fun first second ↦ compare first.1 second.1 = .lt
deriving DecidableEq

namespace OrderedMap

variable {κ α : Type} [Ord κ]

/-- The list of entries with one more key, or with the value of a present key replaced. -/
def insertEntry (key : κ) (value : α) : List (κ × α) → List (κ × α)
  | [] => [(key, value)]
  | entry :: rest =>
    match compare key entry.1 with
    | .lt => (key, value) :: entry :: rest
    | .eq => (key, value) :: rest
    | .gt => entry :: insertEntry key value rest

/-- The value at a key in an ascending list of entries. -/
def findEntry (key : κ) : List (κ × α) → Option α
  | [] => none
  | entry :: rest =>
    match compare key entry.1 with
    | .lt => none
    | .eq => some entry.2
    | .gt => findEntry key rest

/-- An inserted list holds the new entry and entries that were there before. -/
theorem eq_or_mem_of_mem_insertEntry {key : κ} {value : α} {entries : List (κ × α)}
    {entry : κ × α} (hmem : entry ∈ insertEntry key value entries) :
    entry = (key, value) ∨ entry ∈ entries := by
  induction entries with
  | nil => simpa [insertEntry] using hmem
  | cons head rest ih =>
    simp only [insertEntry] at hmem
    split at hmem
    · simpa using hmem
    · rcases List.mem_cons.1 hmem with hequal | hmem
      · exact Or.inl hequal
      · exact Or.inr (List.mem_cons_of_mem _ hmem)
    · rcases List.mem_cons.1 hmem with hequal | hmem
      · exact Or.inr (hequal ▸ List.mem_cons_self)
      · exact (ih hmem).imp_right (List.mem_cons_of_mem _)

/-- Insertion keeps the keys strictly ascending. -/
theorem ascending_insertEntry [Std.TransOrd κ] (key : κ) (value : α) {entries : List (κ × α)}
    (hascending : entries.Pairwise fun first second ↦ compare first.1 second.1 = .lt) :
    (insertEntry key value entries).Pairwise
      fun first second ↦ compare first.1 second.1 = .lt := by
  induction entries with
  | nil => simp [insertEntry]
  | cons head rest ih =>
    have ⟨hbelow, hlater⟩ := List.pairwise_cons.1 hascending
    simp only [insertEntry]
    split
    next hless =>
      refine List.pairwise_cons.2 ⟨fun entry hmem ↦ ?_, hascending⟩
      rcases List.mem_cons.1 hmem with rfl | hmem
      · exact hless
      · exact Std.TransCmp.lt_trans hless (hbelow entry hmem)
    next hequal =>
      refine List.pairwise_cons.2 ⟨fun entry hmem ↦ ?_, hlater⟩
      exact Std.TransCmp.lt_of_eq_of_lt hequal (hbelow entry hmem)
    next hgreater =>
      refine List.pairwise_cons.2 ⟨fun entry hmem ↦ ?_, ih hlater⟩
      rcases eq_or_mem_of_mem_insertEntry hmem with rfl | hmem
      · exact Std.OrientedCmp.lt_of_gt hgreater
      · exact hbelow entry hmem

def empty : OrderedMap κ α := ⟨[], .nil⟩

instance : EmptyCollection (OrderedMap κ α) := ⟨empty⟩
instance : Inhabited (OrderedMap κ α) := ⟨empty⟩

/-- The map with the value at the key; an earlier value at the key is gone. -/
def insert [Std.TransOrd κ] (map : OrderedMap κ α) (key : κ) (value : α) : OrderedMap κ α :=
  ⟨insertEntry key value map.entries, ascending_insertEntry key value map.ascending⟩

def erase [DecidableEq κ] (map : OrderedMap κ α) (key : κ) : OrderedMap κ α :=
  ⟨map.entries.filter fun entry ↦ entry.1 ≠ key, map.ascending.filter _⟩

def find? (map : OrderedMap κ α) (key : κ) : Option α := findEntry key map.entries

def keys (map : OrderedMap κ α) : List κ := map.entries.map Prod.fst

def size (map : OrderedMap κ α) : Nat := map.entries.length

def isEmpty (map : OrderedMap κ α) : Bool := map.entries.isEmpty

/-- The map that results from writing the entries one after the other: the last value at a key
stays. -/
def ofList [Std.TransOrd κ] (entries : List (κ × α)) : OrderedMap κ α :=
  entries.foldl (fun map entry ↦ map.insert entry.1 entry.2) empty

/-- Maps with the same entries are equal. -/
@[ext] theorem ext {first second : OrderedMap κ α} (hequal : first.entries = second.entries) :
    first = second := by
  cases first
  cases second
  cases hequal
  rfl

@[simp] theorem entries_empty : (empty : OrderedMap κ α).entries = [] := rfl

@[simp] theorem find?_empty (key : κ) : (empty : OrderedMap κ α).find? key = none := rfl

@[simp] theorem length_keys (map : OrderedMap κ α) : map.keys.length = map.size := by
  simp [keys, size]

@[simp] theorem entries_insert [Std.TransOrd κ] (map : OrderedMap κ α) (key : κ) (value : α) :
    (map.insert key value).entries = insertEntry key value map.entries := rfl

/-- The keys ascend strictly, so no key is listed twice. -/
theorem pairwise_keys (map : OrderedMap κ α) :
    map.keys.Pairwise fun first second ↦ compare first second = .lt :=
  List.pairwise_map.2 map.ascending

/-- A look-up after a write answers the written value at the key and is unchanged elsewhere. -/
theorem findEntry_insertEntry [Std.TransOrd κ] [Std.LawfulEqOrd κ] [DecidableEq κ] (key other : κ)
    (value : α) (entries : List (κ × α)) :
    findEntry other (insertEntry key value entries) =
      if other = key then some value else findEntry other entries := by
  induction entries with
  | nil =>
    by_cases hsame : other = key
    · subst hsame
      simp [insertEntry, findEntry]
    · simp only [insertEntry, findEntry, hsame, if_false]
      cases horder : compare other key with
      | lt => rfl
      | eq => exact absurd (Std.LawfulEqOrd.eq_of_compare horder) hsame
      | gt => rfl
  | cons head rest ih =>
    simp only [insertEntry]
    cases horder : compare key head.1 with
    | lt =>
      simp only [findEntry]
      by_cases hsame : other = key
      · subst hsame
        simp
      · simp only [hsame, if_false]
        cases hother : compare other key with
        | lt => simp [Std.TransCmp.lt_trans hother horder]
        | eq => exact absurd (Std.LawfulEqOrd.eq_of_compare hother) hsame
        | gt => rfl
    | eq =>
      have hequal := Std.LawfulEqOrd.eq_of_compare horder
      simp only [findEntry, ← hequal]
      by_cases hsame : other = key
      · subst hsame
        simp
      · simp only [hsame, if_false]
        cases hother : compare other key with
        | lt => rfl
        | eq => exact absurd (Std.LawfulEqOrd.eq_of_compare hother) hsame
        | gt => rfl
    | gt =>
      simp only [findEntry, ih]
      by_cases hsame : other = key
      · subst hsame
        simp [horder]
      · simp [hsame]

/-- A map answers what was written last at a key, and its other answers stay. -/
theorem find?_insert [Std.TransOrd κ] [Std.LawfulEqOrd κ] [DecidableEq κ] (map : OrderedMap κ α)
    (key other : κ) (value : α) :
    (map.insert key value).find? other = if other = key then some value else map.find? other :=
  findEntry_insertEntry key other value map.entries

/-- In a list of entries whose keys are all greater than a key nothing is found at the key. -/
theorem findEntry_eq_none [Std.TransOrd κ] {key : κ} {entries : List (κ × α)}
    (hgreater : ∀ entry ∈ entries, compare key entry.1 = .lt) : findEntry key entries = none := by
  cases entries with
  | nil => rfl
  | cons head rest => simp [findEntry, hgreater head List.mem_cons_self]

/-- A look-up after a removal answers nothing at the key and is unchanged elsewhere. -/
theorem findEntry_filter [Std.TransOrd κ] [Std.LawfulEqOrd κ] [DecidableEq κ] (key other : κ)
    {entries : List (κ × α)}
    (hascending : entries.Pairwise fun first second ↦ compare first.1 second.1 = .lt) :
    findEntry other (entries.filter fun entry ↦ entry.1 ≠ key) =
      if other = key then none else findEntry other entries := by
  induction entries with
  | nil => simp [findEntry]
  | cons head rest ih =>
    have ⟨hbelow, hlater⟩ := List.pairwise_cons.1 hascending
    have hrest := ih hlater
    by_cases hremoved : head.1 = key
    · rw [List.filter_cons_of_neg (by simpa using hremoved), hrest]
      by_cases hsame : other = key
      · simp [hsame]
      · simp only [hsame, if_false, findEntry]
        cases horder : compare other head.1 with
        | lt =>
          exact findEntry_eq_none fun entry hmem ↦
            Std.TransCmp.lt_trans horder (hbelow entry hmem)
        | eq => exact absurd ((Std.LawfulEqOrd.eq_of_compare horder).trans hremoved) hsame
        | gt => rfl
    · rw [List.filter_cons_of_pos (by simpa using hremoved)]
      simp only [findEntry, hrest]
      by_cases hsame : other = key
      · subst hsame
        cases horder : compare other head.1 with
        | lt => simp
        | eq => exact absurd (Std.LawfulEqOrd.eq_of_compare horder).symm hremoved
        | gt => simp
      · simp [hsame]

/-- What is found at a key is listed under that key. -/
theorem mem_of_findEntry [Std.LawfulEqOrd κ] {key : κ} {value : α} {entries : List (κ × α)}
    (hfound : findEntry key entries = some value) : (key, value) ∈ entries := by
  induction entries with
  | nil => simp [findEntry] at hfound
  | cons head rest ih =>
    simp only [findEntry] at hfound
    split at hfound
    · cases hfound
    next hequal =>
      obtain rfl := Std.LawfulEqOrd.eq_of_compare hequal
      cases hfound
      exact List.mem_cons_self
    · exact List.mem_cons_of_mem _ (ih hfound)

theorem mem_entries_of_find? [Std.LawfulEqOrd κ] {map : OrderedMap κ α} {key : κ} {value : α}
    (hfound : map.find? key = some value) : (key, value) ∈ map.entries :=
  mem_of_findEntry hfound

/-- A map answers nothing at a key that was taken away, and its other answers stay. -/
theorem find?_erase [Std.TransOrd κ] [Std.LawfulEqOrd κ] [DecidableEq κ] (map : OrderedMap κ α)
    (key other : κ) :
    (map.erase key).find? other = if other = key then none else map.find? other :=
  findEntry_filter key other map.ascending

/-- A key above all present ones is listed last. -/
theorem insertEntry_of_greater [Std.TransOrd κ] {key : κ} {value : α} {entries : List (κ × α)}
    (hgreater : ∀ entry ∈ entries, compare entry.1 key = .lt) :
    insertEntry key value entries = entries ++ [(key, value)] := by
  induction entries with
  | nil => rfl
  | cons head rest ih =>
    have habove : compare key head.1 = .gt :=
      Std.OrientedCmp.gt_of_lt (hgreater head List.mem_cons_self)
    simp only [insertEntry, habove, List.cons_append]
    rw [ih fun entry hmem ↦ hgreater entry (List.mem_cons_of_mem _ hmem)]

/-- Writing ascending entries above those of a map lists them behind these. -/
theorem entries_foldl_insert [Std.TransOrd κ] (map : OrderedMap κ α) (later : List (κ × α))
    (hascending : (map.entries ++ later).Pairwise
      fun first second ↦ compare first.1 second.1 = .lt) :
    (later.foldl (fun map entry ↦ map.insert entry.1 entry.2) map).entries =
      map.entries ++ later := by
  induction later generalizing map with
  | nil => simp
  | cons head rest ih =>
    have hgreater := (List.pairwise_append.1 hascending).2.2
    have hlisted : (map.insert head.1 head.2).entries = map.entries ++ [head] :=
      insertEntry_of_greater fun entry hmem ↦ hgreater entry hmem head List.mem_cons_self
    rw [List.foldl_cons, ih, hlisted, List.append_assoc, List.singleton_append]
    rw [hlisted, List.append_assoc, List.singleton_append]
    exact hascending

/-- Writing the entries of a map one after the other yields the map. -/
theorem ofList_entries [Std.TransOrd κ] (map : OrderedMap κ α) : ofList map.entries = map := by
  apply ext
  rw [ofList, entries_foldl_insert]
  · rfl
  · exact map.ascending

end OrderedMap

end HubRoutes
