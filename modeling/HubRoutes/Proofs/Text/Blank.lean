import HubRoutes.Text.Blank
import Mathlib.Data.List.TakeWhile
import Mathlib.Data.List.DropRight

/-!
# What is left without the blanks around

The text without the blanks around it is the one part of a text that has only blanks on both sides and
neither begins nor ends with a blank itself.
-/

namespace HubRoutes.Text.Blank

variable {text body : List Char}

/-- A body stands between blanks and neither begins nor ends with one. -/
def IsTrimOf (body text : List Char) : Prop :=
  ∃ front back, text = front ++ body ++ back ∧ (∀ character ∈ front, isBlank character = true) ∧
    (∀ character ∈ back, isBlank character = true) ∧
    (∀ character ∈ body.head?, isBlank character = false) ∧
    ∀ character ∈ body.getLast?, isBlank character = false

theorem dropWhile_eq_self_of_head? {list : List Char}
    (hhead : ∀ character ∈ list.head?, isBlank character = false) : list.dropWhile isBlank = list := by
  cases list with
  | nil => rfl
  | cons first rest => exact List.dropWhile_cons_of_neg (by simp [hhead first rfl])

theorem IsTrimOf.trim_eq (htrim : IsTrimOf body text) : trim text = body := by
  obtain ⟨front, back, rfl, hfront, hback, hfirst, hlast⟩ := htrim
  have hend : trimEnd (body ++ back) = body := by
    have hreverse : ∀ character ∈ body.reverse.head?, isBlank character = false := by
      rwa [List.head?_reverse]
    rw [trimEnd, List.reverse_append, List.dropWhile_append_of_pos (by simpa using hback),
      dropWhile_eq_self_of_head? hreverse, List.reverse_reverse]
  rw [trim, trimStart, List.append_assoc, List.dropWhile_append_of_pos hfront]
  cases body with
  | nil =>
    have hnone : back.dropWhile isBlank = [] := List.dropWhile_eq_nil_iff.2 hback
    rw [List.nil_append, hnone]
    rfl
  | cons first rest =>
    have hstart : ((first :: rest) ++ back).dropWhile isBlank = (first :: rest) ++ back :=
      dropWhile_eq_self_of_head? hfirst
    rw [hstart, hend]

theorem isBlank_of_head?_dropWhile {list : List Char} :
    ∀ character ∈ (list.dropWhile isBlank).head?, isBlank character = false := by
  intro character hcharacter
  have hfirst := List.head?_dropWhile_not isBlank list
  rw [Option.mem_def.1 hcharacter] at hfirst
  exact hfirst

theorem isTrimOf_trim (text : List Char) : IsTrimOf (trim text) text := by
  have hsplit : trim text ++ (trimStart text).rtakeWhile isBlank = trimStart text :=
    List.rdropWhile_append_rtakeWhile
  refine ⟨text.takeWhile isBlank, (trimStart text).rtakeWhile isBlank, ?_, ?_, ?_, ?_, ?_⟩
  · rw [List.append_assoc, hsplit]
    exact List.takeWhile_append_dropWhile.symm
  · intro character hcharacter
    exact List.mem_takeWhile_imp hcharacter
  · intro character hcharacter
    exact List.mem_rtakeWhile_imp hcharacter
  · intro character hcharacter
    have hfirst : character ∈ (trimStart text).head? := by
      rw [← hsplit]
      exact List.mem_head?_append_of_mem_head? hcharacter
    exact isBlank_of_head?_dropWhile character hfirst
  · intro character hcharacter
    rw [trim, trimEnd, List.getLast?_reverse] at hcharacter
    exact isBlank_of_head?_dropWhile character hcharacter

/-- Trimming finds the one part of a text that stands between its blanks. -/
theorem isTrimOf_iff : IsTrimOf body text ↔ body = trim text := by
  constructor
  · intro htrim
    exact htrim.trim_eq.symm
  · intro hbody
    rw [hbody]
    exact isTrimOf_trim text

/-- A body without blanks stands between the blanks around it. -/
theorem IsTrimOf.of_visible {front back : List Char}
    (hfront : ∀ character ∈ front, isBlank character = true)
    (hback : ∀ character ∈ back, isBlank character = true)
    (hvisible : ∀ character ∈ body, isBlank character = false) : IsTrimOf body (front ++ body ++ back) := by
  refine ⟨front, back, rfl, hfront, hback, ?_, ?_⟩
  · intro character hcharacter
    exact hvisible character (List.mem_of_mem_head? hcharacter)
  · intro character hcharacter
    exact hvisible character (List.mem_of_mem_getLast? hcharacter)

theorem trim_eq_self (hvisible : ∀ character ∈ text, isBlank character = false) : trim text = text := by
  have hnone : ∀ character ∈ ([] : List Char), isBlank character = true :=
    List.forall_mem_nil _
  have htrim := IsTrimOf.of_visible hnone hnone hvisible
  rw [List.nil_append, List.append_nil] at htrim
  exact htrim.trim_eq

end HubRoutes.Text.Blank
