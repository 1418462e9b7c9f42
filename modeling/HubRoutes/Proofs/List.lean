import Mathlib.Data.List.Forall2
import Mathlib.Data.List.Nodup

/-!
# Lists that are gone through together

What the proofs need to know of lists that match one by one, of lists of which parts are left out, and of keys
that are told apart while a list is gone through.
-/

namespace HubRoutes

/-! ## Lists that match one by one -/

section Matching

variable {α β : Type} {R : α → β → Prop}

/-- What matches a joined list is joined of what matches its two parts. -/
theorem forall₂_append_left_iff {first second : List α} {list : List β} :
    List.Forall₂ R (first ++ second) list ↔ ∃ front back, List.Forall₂ R first front ∧
      List.Forall₂ R second back ∧ list = front ++ back := by
  induction first generalizing list with
  | nil => simp
  | cons head tail ih =>
    simp only [List.cons_append, List.forall₂_cons_left_iff, ih]
    constructor
    · intro hmatch
      rcases hmatch with ⟨value, _, hhead, ⟨front, back, htail, hsecond, rfl⟩, rfl⟩
      exact ⟨value :: front, back, ⟨value, front, hhead, htail, rfl⟩, hsecond, rfl⟩
    · intro hmatch
      rcases hmatch with ⟨_, back, ⟨value, front, hhead, htail, rfl⟩, hsecond, rfl⟩
      exact ⟨value, front ++ back, hhead, ⟨front, back, htail, hsecond, rfl⟩, rfl⟩

theorem exists_left_of_forall₂ {left : List α} {right : List β} (hmatch : List.Forall₂ R left right)
    {value : β} (hvalue : value ∈ right) : ∃ original ∈ left, R original value := by
  induction hmatch with
  | nil => cases hvalue
  | cons hhead _ ih =>
    rcases List.mem_cons.1 hvalue with rfl | hlater
    · exact ⟨_, List.mem_cons_self, hhead⟩
    · rcases ih hlater with ⟨original, horiginal, hrelated⟩
      exact ⟨original, List.mem_cons_of_mem _ horiginal, hrelated⟩

theorem exists_right_of_forall₂ {left : List α} {right : List β} (hmatch : List.Forall₂ R left right)
    {original : α} (horiginal : original ∈ left) : ∃ value ∈ right, R original value :=
  exists_left_of_forall₂ hmatch.flip horiginal

theorem map_eq_map_of_forall₂ {γ : Type} {f : α → γ} {g : β → γ} (hequal : ∀ x y, R x y → f x = g y)
    {left : List α} {right : List β} (hmatch : List.Forall₂ R left right) :
    left.map f = right.map g := by
  rw [← List.forall₂_eq_eq_eq, List.forall₂_map_left_iff, List.forall₂_map_right_iff]
  exact hmatch.imp hequal

theorem forall₂_and_iff {S : α → β → Prop} {left : List α} {right : List β} :
    List.Forall₂ (fun x y ↦ R x y ∧ S x y) left right ↔
      List.Forall₂ R left right ∧ List.Forall₂ S left right := by
  constructor
  · intro hboth
    exact ⟨hboth.imp fun _ _ ↦ And.left, hboth.imp fun _ _ ↦ And.right⟩
  · intro hmatches
    obtain ⟨hfirst, hsecond⟩ := hmatches
    induction hfirst with
    | nil => exact .nil
    | cons hhead _ ih =>
      cases hsecond with
      | cons hhead' htail' => exact .cons ⟨hhead, hhead'⟩ (ih htail')

theorem forall₂_exists_eq_iff {γ : Type} {f : β → γ} {left : List α} {right : List γ} :
    List.Forall₂ (fun x z ↦ ∃ y, R x y ∧ f y = z) left right ↔
      ∃ middle, List.Forall₂ R left middle ∧ middle.map f = right := by
  constructor
  · intro hmatch
    induction hmatch with
    | nil => exact ⟨[], .nil, rfl⟩
    | cons hhead _ ih =>
      obtain ⟨value, hvalue, rfl⟩ := hhead
      obtain ⟨middle, hmiddle, rfl⟩ := ih
      exact ⟨value :: middle, .cons hvalue hmiddle, rfl⟩
  · rintro ⟨middle, hmiddle, rfl⟩
    rw [List.forall₂_map_right_iff]
    exact hmiddle.imp fun x y hrelated ↦ ⟨y, hrelated, rfl⟩

/-- Two lists that match a third one match each other. -/
theorem forall₂_of_common {γ : Type} {S : α → γ → Prop} {T : β → γ → Prop}
    (hcommon : ∀ x y z, R x y → S x z → T y z) {list : List α} {left : List β} {right : List γ}
    (hleft : List.Forall₂ R list left) (hright : List.Forall₂ S list right) : List.Forall₂ T left right := by
  induction hleft generalizing right with
  | nil =>
    cases hright
    exact .nil
  | cons hhead _ ih =>
    cases hright with
    | cons hhead' hrest' => exact .cons (hcommon _ _ _ hhead hhead') (ih hrest')

/-- A list has a match exactly if each of its members has one. -/
theorem exists_forall₂_iff {left : List α} :
    (∃ right, List.Forall₂ R left right) ↔ ∀ original ∈ left, ∃ value, R original value := by
  constructor
  · intro hsome original horiginal
    rcases hsome with ⟨right, hmatch⟩
    rcases exists_right_of_forall₂ hmatch horiginal with ⟨value, -, hrelated⟩
    exact ⟨value, hrelated⟩
  · intro heach
    induction left with
    | nil => exact ⟨[], .nil⟩
    | cons head tail ih =>
      rcases heach head List.mem_cons_self with ⟨value, hhead⟩
      have hlater : ∀ original ∈ tail, ∃ value, R original value := by
        intro original horiginal
        exact heach original (List.mem_cons_of_mem _ horiginal)
      rcases ih hlater with ⟨right, htail⟩
      exact ⟨value :: right, .cons hhead htail⟩

/-- If changed originals match changed values one by one, so do all of them together. -/
theorem exists_forall₂_of_forall₂ {α' β' : Type} {R' : α' → β' → Prop} {S : α → α' → Prop} {T : β → β' → Prop}
    (hstep : ∀ original original' value, S original original' → R original value →
      ∃ value', R' original' value' ∧ T value value')
    {left : List α} {left' : List α'} {right : List β} (hleft : List.Forall₂ S left left')
    (hmatch : List.Forall₂ R left right) :
    ∃ right', List.Forall₂ R' left' right' ∧ List.Forall₂ T right right' := by
  induction hleft generalizing right with
  | nil =>
    cases hmatch
    exact ⟨[], .nil, .nil⟩
  | cons hhead _ ih =>
    cases hmatch with
    | cons hrelated hrest =>
      obtain ⟨value', hvalue', hchanged⟩ := hstep _ _ _ hhead hrelated
      obtain ⟨right', hright', hchanges⟩ := ih hrest
      exact ⟨value' :: right', .cons hvalue' hright', .cons hchanged hchanges⟩

end Matching

/-! ## Parts of lists -/

section Sublists

variable {α β γ κ : Type} {R : α → β → Prop}

theorem sublist_flatMap_of_sublistForall₂ {f : α → List γ} {g : β → List γ}
    (hparts : ∀ x y, R x y → (f x).Sublist (g y)) {small : List α} {large : List β}
    (hsmall : List.SublistForall₂ R small large) : (small.flatMap f).Sublist (large.flatMap g) := by
  induction hsmall with
  | nil => exact List.nil_sublist _
  | cons hhead _ ih => exact (hparts _ _ hhead).append ih
  | cons_right _ ih => exact ih.trans (List.sublist_append_right _ _)

theorem sublist_map_of_sublistForall₂ {f : α → γ} {g : β → γ} (hequal : ∀ x y, R x y → f x = g y)
    {small : List α} {large : List β} (hsmall : List.SublistForall₂ R small large) :
    (small.map f).Sublist (large.map g) := by
  rw [List.map_eq_flatMap, List.map_eq_flatMap]
  apply sublist_flatMap_of_sublistForall₂ _ hsmall
  intro x y hrelated
  rw [hequal x y hrelated]

theorem exists_of_mem_sublistForall₂ {small : List α} {large : List β}
    (hsmall : List.SublistForall₂ R small large) {part : α} (hpart : part ∈ small) :
    ∃ whole ∈ large, R part whole := by
  induction hsmall with
  | nil => cases hpart
  | cons hhead _ ih =>
    rcases List.mem_cons.1 hpart with rfl | hlater
    · exact ⟨_, List.mem_cons_self, hhead⟩
    · obtain ⟨whole, hwhole, hrelated⟩ := ih hlater
      exact ⟨whole, List.mem_cons_of_mem _ hwhole, hrelated⟩
  | cons_right _ ih =>
    obtain ⟨whole, hwhole, hrelated⟩ := ih hpart
    exact ⟨whole, List.mem_cons_of_mem _ hwhole, hrelated⟩

/-- If results are told apart by a key that each shares with what it results from, then the results of a
part are those whose keys occur in the part. -/
theorem forall₂_filter_of_sublist [BEq κ] [LawfulBEq κ] {keyOf : α → κ} {keyOf' : β → κ}
    (hkeys : ∀ x y, R x y → keyOf x = keyOf' y) {small large : List α} {results : List β}
    (hsmall : small.Sublist large) (hmatch : List.Forall₂ R large results)
    (hdistinct : (large.map keyOf).Nodup) :
    List.Forall₂ R small (results.filter fun result ↦ keyOf' result ∈ small.map keyOf) := by
  induction hsmall generalizing results with
  | slnil =>
    cases hmatch
    exact .nil
  | @cons small large original hsmall ih =>
    cases hmatch with
    | cons hhead hrest =>
      obtain ⟨hnew, hdistinct⟩ := List.nodup_cons.1 hdistinct
      rw [List.filter_cons_of_neg]
      · exact ih hrest hdistinct
      · rw [decide_eq_true_eq, ← hkeys _ _ hhead]
        exact fun hkey ↦ hnew ((hsmall.map keyOf).subset hkey)
  | @cons_cons small large original hsmall ih =>
    cases hmatch with
    | @cons _ result _ later hhead hrest =>
      obtain ⟨hnew, hdistinct⟩ := List.nodup_cons.1 hdistinct
      have hkey : keyOf' result ∈ (original :: small).map keyOf := by
        rw [← hkeys _ _ hhead]
        exact List.mem_cons_self
      have hlater : later.filter (fun other ↦ keyOf' other ∈ (original :: small).map keyOf) =
          later.filter fun other ↦ keyOf' other ∈ small.map keyOf := by
        apply List.filter_congr
        intro other hother
        obtain ⟨whole, hwhole, hrelated⟩ := exists_left_of_forall₂ hrest hother
        rw [decide_eq_decide, List.map_cons, List.mem_cons, ← hkeys _ _ hrelated]
        apply or_iff_right
        exact fun hsame ↦ hnew (hsame ▸ List.mem_map_of_mem hwhole)
      rw [List.filter_cons_of_pos (by exact decide_eq_true hkey), hlater]
      exact .cons hhead (ih hrest hdistinct)

end Sublists

/-! ## Distinct keys -/

section Distinct

variable {α κ : Type}

/-- A search carries the keys along that it met before; what it asks of a rest is that the keys are new as well
as distinct. -/
theorem new_distinct_forall_cons_iff (keyOf : α → κ) (property : α → Prop) (earlier : List κ) (first : α)
    (rest : List α) :
    ((∀ part ∈ first :: rest, keyOf part ∉ earlier) ∧ ((first :: rest).map keyOf).Nodup ∧
        ∀ part ∈ first :: rest, property part) ↔
      (keyOf first ∉ earlier ∧ property first) ∧
        (∀ part ∈ rest, keyOf part ∉ keyOf first :: earlier) ∧ (rest.map keyOf).Nodup ∧
          ∀ part ∈ rest, property part := by
  have hnew : (∀ part ∈ rest, keyOf part ∉ keyOf first :: earlier) ↔
      keyOf first ∉ rest.map keyOf ∧ ∀ part ∈ rest, keyOf part ∉ earlier := by
    simp only [List.mem_cons, not_or, List.mem_map, not_exists, not_and]
    exact forall₂_and
  rw [hnew, List.map_cons, List.nodup_cons, List.forall_mem_cons, List.forall_mem_cons]
  constructor
  · intro hall
    rcases hall with ⟨⟨hfirst, hrest⟩, ⟨hother, hdistinct⟩, hfirstHolds, hrestHolds⟩
    exact ⟨⟨hfirst, hfirstHolds⟩, ⟨hother, hrest⟩, hdistinct, hrestHolds⟩
  · intro hparts
    rcases hparts with ⟨⟨hfirst, hfirstHolds⟩, ⟨hother, hrest⟩, hdistinct, hrestHolds⟩
    exact ⟨⟨hfirst, hrest⟩, ⟨hother, hdistinct⟩, hfirstHolds, hrestHolds⟩

/-- A look-up among items that are paired with their keys finds the value of the first item with the key. -/
theorem lookup_map_eq {β : Type} [DecidableEq κ] (keyOf : α → κ) (valueOf : α → β) (items : List α) (key : κ) :
    (items.map fun item ↦ (keyOf item, valueOf item)).lookup key =
      (items.find? fun item ↦ keyOf item = key).map valueOf := by
  induction items with
  | nil => rfl
  | cons item rest ih =>
    rw [List.map_cons, List.lookup_cons, List.find?_cons]
    by_cases hsame : keyOf item = key
    · rw [hsame, beq_self_eq_true, decide_eq_true rfl]
      rfl
    · rw [beq_false_of_ne (Ne.symm hsame), decide_eq_false hsame]
      exact ih

theorem lookup_eq_of_perm [BEq κ] [LawfulBEq κ] {entries entries' : List (κ × α)}
    (hperm : entries.Perm entries') (hdistinct : (entries.map Prod.fst).Nodup) (key : κ) :
    entries.lookup key = entries'.lookup key := by
  induction hperm with
  | nil => rfl
  | cons entry _ ih => rw [List.lookup_cons, List.lookup_cons, ih (List.nodup_cons.1 hdistinct).2]
  | swap first second rest =>
    have hne : first.1 ≠ second.1 := fun hsame ↦ by simp [hsame] at hdistinct
    rw [List.lookup_cons, List.lookup_cons, List.lookup_cons, List.lookup_cons]
    by_cases hfirst : key = first.1
    · rw [hfirst, beq_self_eq_true, beq_false_of_ne hne]
    · rw [beq_false_of_ne hfirst]
  | trans hfirst _ ih ih' => rw [ih hdistinct, ih' ((hfirst.map _).nodup_iff.1 hdistinct)]

end Distinct

end HubRoutes
