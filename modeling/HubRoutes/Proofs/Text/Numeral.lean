import HubRoutes.Text.Numeral
import Mathlib.Tactic.IntervalCases

/-!
# Numerals are read back

Reading the decimal text of a number yields the number, and the text has nothing but digits in it and
no leading zero. A hexadecimal digit has its value in either case.
-/

namespace HubRoutes.Text.Numeral

/-! ## Digits -/

theorem digitValue?_digitChar {base value : Nat} (hvalue : value < base) (hbase : base ≤ 16) :
    digitValue? base (Nat.digitChar value) = some value := by
  have hsixteen : value < 16 := by omega
  interval_cases value <;> simp [digitValue?, hvalue, Nat.digitChar]

/-- A digit of a hexadecimal numeral, in the case that it is written in. -/
def IsHexDigitOf (value : Nat) (character : Char) : Prop :=
  character = hexDigit value ∨ character = (hexDigit value).toUpper

theorem IsHexDigitOf.digitValue? {value : Nat} {character : Char} (hvalue : value < 16)
    (hdigit : IsHexDigitOf value character) : digitValue? 16 character = some value := by
  rcases hdigit with rfl | rfl
  · exact digitValue?_digitChar hvalue le_rfl
  · revert value
    decide

theorem IsHexDigitOf.mem_alphabet {value : Nat} {character : Char} (hvalue : value < 16)
    (hdigit : IsHexDigitOf value character) : character ∈ "0123456789abcdefABCDEF".toList := by
  rcases hdigit with rfl | rfl
  · revert value
    decide
  · revert value
    decide

theorem IsHexDigitOf.toLower_eq {value : Nat} {character : Char} (hvalue : value < 16)
    (hdigit : IsHexDigitOf value character) : character.toLower = hexDigit value := by
  rcases hdigit with rfl | rfl
  · revert value
    decide
  · revert value
    decide

theorem isDigit_digitChar {value : Nat} (hvalue : value < 10) :
    isDigit (Nat.digitChar value) = true := by
  revert value
  decide

/-! ## Decimal numerals -/

theorem decimal_of_lt {number : Nat} (hsmall : number < 10) :
    decimal number = [Nat.digitChar number] :=
  Nat.toDigits_of_lt_base hsmall

theorem decimal_of_le {number : Nat} (hlarge : 10 ≤ number) :
    decimal number = decimal (number / 10) ++ [Nat.digitChar (number % 10)] :=
  Nat.toDigits_of_base_le (by decide) hlarge

theorem decimal_ne_nil (number : Nat) : decimal number ≠ [] := Nat.toDigits_ne_nil

theorem isDigit_of_mem_decimal {number : Nat} {character : Char}
    (hmember : character ∈ decimal number) : isDigit character = true := by
  induction number using Nat.strongRecOn with
  | ind number ih =>
    rcases Nat.lt_or_ge number 10 with hsmall | hlarge
    · rw [decimal_of_lt hsmall, List.mem_singleton] at hmember
      rw [hmember]
      exact isDigit_digitChar hsmall
    · rw [decimal_of_le hlarge, List.mem_append, List.mem_singleton] at hmember
      rcases hmember with hfront | rfl
      · exact ih (number / 10) (by omega) hfront
      · exact isDigit_digitChar (by omega)

theorem head?_decimal_ne_zero {number : Nat} (hpositive : 0 < number) :
    (decimal number).head? ≠ some '0' := by
  induction number using Nat.strongRecOn with
  | ind number ih =>
    rcases Nat.lt_or_ge number 10 with hsmall | hlarge
    · rw [decimal_of_lt hsmall, List.head?_cons, ne_eq, Option.some.injEq, Nat.digitChar_eq_zero]
      omega
    · have hfront : (decimal number).head? = (decimal (number / 10)).head? := by
        rw [decimal_of_le hlarge]
        cases hdigits : decimal (number / 10) with
        | nil => exact absurd hdigits (decimal_ne_nil _)
        | cons digit rest => rfl
      rw [hfront]
      exact ih (number / 10) (by omega) (by omega)

/-- The digits at the start of a text are all of them if no digit comes next. -/
theorem takeWhile_append_of_ends {digits rest : List Char} (hdigits : ∀ digit ∈ digits, isDigit digit = true)
    (hrest : ∀ character ∈ rest.head?, isDigit character = false) :
    (digits ++ rest).takeWhile isDigit = digits ∧ (digits ++ rest).dropWhile isDigit = rest := by
  have hend : rest.takeWhile isDigit = [] ∧ rest.dropWhile isDigit = rest := by
    cases rest with
    | nil => exact ⟨rfl, rfl⟩
    | cons first later => simp [hrest first rfl]
  rw [List.takeWhile_append_of_pos hdigits, List.dropWhile_append_of_pos hdigits, hend.1, hend.2, List.append_nil]
  exact ⟨rfl, rfl⟩

/-! ## Numbers -/

theorem isDigit_of_digitValue? {character : Char} {value : Nat} (hvalue : digitValue? 10 character = some value) :
    isDigit character = true := by
  have hcode : 48 ≤ character.toNat ∧ character.toNat ≤ 57 := by
    simp only [digitValue?, Bool.and_eq_true, decide_eq_true_eq] at hvalue
    split_ifs at hvalue <;> omega
  exact Bool.and_eq_true_iff.2 ⟨decide_eq_true (UInt32.le_iff_toNat_le.2 hcode.1),
    decide_eq_true (UInt32.le_iff_toNat_le.2 hcode.2)⟩

theorem isDigit_of_readFrom? {digits : List Char} {value number : Nat}
    (hread : readFrom? 10 value digits = some number) : ∀ digit ∈ digits, isDigit digit = true := by
  induction digits generalizing value with
  | nil => nofun
  | cons digit rest ih =>
    rw [readFrom?] at hread
    cases hvalue : digitValue? 10 digit with
    | none => simp [hvalue] at hread
    | some unit =>
      rw [hvalue] at hread
      exact List.forall_mem_cons.2 ⟨isDigit_of_digitValue? hvalue, ih hread⟩

/-- A number is written by at least one digit and nothing else. -/
theorem digits_of_read? {digits : List Char} {number : Nat} (hread : read? 10 digits = some number) :
    digits ≠ [] ∧ ∀ digit ∈ digits, isDigit digit = true := by
  cases digits with
  | nil => cases hread
  | cons digit rest => exact ⟨nofun, isDigit_of_readFrom? hread⟩

theorem readFrom?_append (base value : Nat) (first second : List Char) :
    readFrom? base value (first ++ second) =
      (readFrom? base value first).bind fun read ↦ readFrom? base read second := by
  induction first generalizing value with
  | nil => rfl
  | cons digit rest ih =>
    simp only [List.cons_append, readFrom?]
    cases digitValue? base digit with
    | none => rfl
    | some unit => exact ih (value * base + unit)

theorem readFrom?_decimal (number : Nat) : readFrom? 10 0 (decimal number) = some number := by
  induction number using Nat.strongRecOn with
  | ind number ih =>
    rcases Nat.lt_or_ge number 10 with hsmall | hlarge
    · rw [decimal_of_lt hsmall]
      simp [readFrom?, digitValue?_digitChar hsmall]
    · have hunit : number % 10 < 10 := Nat.mod_lt number (by decide)
      have hwhole : number / 10 * 10 + number % 10 = number := by omega
      rw [decimal_of_le hlarge, readFrom?_append, ih (number / 10) (by omega)]
      simp [readFrom?, digitValue?_digitChar hunit, hwhole]

/-- The decimal text of a number reads as the number. -/
theorem read?_decimal (number : Nat) : read? 10 (decimal number) = some number := by
  rw [← readFrom?_decimal number]
  cases hdigits : decimal number with
  | nil => exact absurd hdigits (decimal_ne_nil number)
  | cons digit rest => rfl

end HubRoutes.Text.Numeral
