import HubRoutes.Number.Literal
import HubRoutes.Proofs.Text.Numeral

/-!
# The grammar of decimal literals

Reading a literal is compared with a grammar that names no function of the reader but the value of a run of digits:
an optional sign, digits with at most one point among them, and an optional power of ten.
-/

namespace HubRoutes.Number.Literal

open Text.Numeral (isDigit)

/-! ## Signs -/

/-- A text with a sign in front of the rest, or without a sign. -/
inductive Signs : List Char → Bool → List Char → Prop
  | minus (rest : List Char) : Signs ('-' :: rest) true rest
  | plus (rest : List Char) : Signs ('+' :: rest) false rest
  | bare {text : List Char} (hminus : text.head? ≠ some '-') (hplus : text.head? ≠ some '+') : Signs text false text

/-- The sign and the rest are those that the text has. -/
theorem splitSign_eq_iff {text rest : List Char} {negative : Bool} :
    splitSign text = (negative, rest) ↔ Signs text negative rest := by
  constructor
  · intro hsplit
    unfold splitSign at hsplit
    split at hsplit
    · cases hsplit
      exact .minus _
    · cases hsplit
      exact .plus _
    · next hminus hplus =>
      cases hsplit
      refine .bare ?_ ?_
      · rw [ne_eq, List.head?_eq_some_iff]
        rintro ⟨later, rfl⟩
        exact hminus later rfl
      · rw [ne_eq, List.head?_eq_some_iff]
        rintro ⟨later, rfl⟩
        exact hplus later rfl
  · intro hsigns
    cases hsigns with
    | minus => rfl
    | plus => rfl
    | bare hminus hplus =>
      unfold splitSign
      split
      · exact absurd rfl hminus
      · exact absurd rfl hplus
      · rfl

theorem signs_splitSign (text : List Char) : Signs text (splitSign text).1 (splitSign text).2 :=
  splitSign_eq_iff.1 rfl

/-! ## Powers of ten -/

/-- A power of ten as a text; the zeroth may be left out. -/
inductive WritesPower : List Char → Int → Prop
  | none : WritesPower [] 0
  | power {mark : Char} {text digits : List Char} {negative : Bool} {power : Nat} (hmark : mark = 'e' ∨ mark = 'E')
      (hsign : Signs text negative digits) (hread : Text.Numeral.read? 10 digits = some power) :
      WritesPower (mark :: text) (if negative then -(power : Int) else power)

/-- A power of ten is read from exactly the texts of one. -/
theorem readPower?_eq_some_iff {text : List Char} {power : Int} :
    readPower? text = some power ↔ WritesPower text power := by
  constructor
  · intro hread
    cases text with
    | nil =>
      cases hread
      exact .none
    | cons mark text =>
      rw [readPower?] at hread
      split at hread
      · next hmark =>
        simp only [Option.map_eq_some_iff, Option.bind_eq_bind, Option.bind_eq_some_iff, Option.pure_def,
          Option.some.injEq] at hread
        obtain ⟨_, ⟨number, hnumber, rfl⟩, rfl⟩ := hread
        exact .power hmark (signs_splitSign text) hnumber
      · cases hread
  · intro hwrites
    cases hwrites with
    | none => rfl
    | power hmark hsign hread =>
      rw [readPower?, if_pos hmark, splitSign_eq_iff.2 hsign]
      simp [hread]

/-- A power of ten does not start with a digit or a point. -/
theorem WritesPower.head? {text : List Char} {power : Int} (hwrites : WritesPower text power) :
    ∀ character ∈ text.head?, isDigit character = false ∧ character ≠ '.' := by
  cases hwrites with
  | none => nofun
  | power hmark =>
    rintro _ ⟨⟩
    obtain rfl | rfl := hmark <;> decide

/-! ## Literals -/

/-- A literal without its sign: digits, or digits with a point among them, and a power of ten. -/
inductive WritesUnsigned (negative : Bool) : List Char → Literal → Prop
  | whole {digits rest : List Char} {significand : Nat} {power : Int}
      (hread : Text.Numeral.read? 10 digits = some significand) (hpower : WritesPower rest power) :
      WritesUnsigned negative (digits ++ rest) ⟨negative, significand, power⟩
  | pointed {whole fraction rest : List Char} {significand : Nat} {power : Int}
      (hread : Text.Numeral.read? 10 (whole ++ fraction) = some significand) (hpower : WritesPower rest power) :
      WritesUnsigned negative (whole ++ '.' :: (fraction ++ rest)) ⟨negative, significand, power - fraction.length⟩

/-- A text is a literal. -/
def Writes (text : List Char) (literal : Literal) : Prop :=
  ∃ negative rest, Signs text negative rest ∧ WritesUnsigned negative rest literal

/-- What is read as a literal is written as one. -/
theorem writesUnsigned_of_read {negative : Bool} {text : List Char} {literal : Literal}
    (hread : readUnsigned? negative text = some literal) : WritesUnsigned negative text literal := by
  have hsplit := List.takeWhile_append_dropWhile (p := isDigit) (l := text)
  unfold readUnsigned? at hread
  dsimp only at hread
  split at hread
  · next rest hrest =>
    simp only [Option.bind_eq_bind, Option.bind_eq_some_iff, Option.pure_def, Option.some.injEq] at hread
    obtain ⟨significand, hsignificand, power, hpower, rfl⟩ := hread
    rw [hrest, ← List.takeWhile_append_dropWhile (p := isDigit) (l := rest)] at hsplit
    rw [← hsplit]
    exact .pointed hsignificand (readPower?_eq_some_iff.1 hpower)
  · simp only [Option.bind_eq_bind, Option.bind_eq_some_iff, Option.pure_def, Option.some.injEq] at hread
    obtain ⟨significand, hsignificand, power, hpower, rfl⟩ := hread
    rw [← hsplit]
    exact .whole hsignificand (readPower?_eq_some_iff.1 hpower)

/-- Whatever is written as a literal is read as that literal. -/
theorem readUnsigned?_of_writes {negative : Bool} {text : List Char} {literal : Literal}
    (hwrites : WritesUnsigned negative text literal) : readUnsigned? negative text = some literal := by
  -- A run of digits ends where the power of ten or the point begins, so the reader stops there as well.
  cases hwrites with
  | @whole digits rest significand power hread hpower =>
    obtain ⟨htake, hdrop⟩ := Text.Numeral.takeWhile_append_of_ends (Text.Numeral.digits_of_read? hread).2
      fun character hfirst ↦ (hpower.head? character hfirst).1
    rw [readUnsigned?, htake, hdrop]
    dsimp only
    split
    · exact absurd rfl (hpower.head? '.' rfl).2
    · simp [hread, readPower?_eq_some_iff.2 hpower]
  | @pointed whole fraction rest significand power hread hpower =>
    obtain ⟨-, hdigits⟩ := Text.Numeral.digits_of_read? hread
    rw [List.forall_mem_append] at hdigits
    have hpoint : ∀ character ∈ ('.' :: (fraction ++ rest)).head?, isDigit character = false := by
      rintro _ ⟨⟩
      rfl
    obtain ⟨htake, hdrop⟩ := Text.Numeral.takeWhile_append_of_ends hdigits.1 hpoint
    obtain ⟨htake', hdrop'⟩ := Text.Numeral.takeWhile_append_of_ends hdigits.2
      fun character hfirst ↦ (hpower.head? character hfirst).1
    rw [readUnsigned?, htake, hdrop]
    simp [htake', hdrop', hread, readPower?_eq_some_iff.2 hpower]

/-- The literals of the grammar are the literals that are read. -/
theorem read?_eq_some_iff {text : List Char} {literal : Literal} : read? text = some literal ↔ Writes text literal := by
  constructor
  · intro hread
    exact ⟨_, _, signs_splitSign text, writesUnsigned_of_read hread⟩
  · rintro ⟨negative, rest, hsigns, hwrites⟩
    rw [read?, splitSign_eq_iff.2 hsigns]
    exact readUnsigned?_of_writes hwrites

/-! ## The characters of literals -/

def IsNumberCharacter (character : Char) : Prop :=
  isDigit character = true ∨ character ∈ ['+', '-', '.', 'e', 'E']

instance : DecidablePred IsNumberCharacter := fun _ ↦ inferInstanceAs (Decidable (_ ∨ _))

theorem Signs.forall_mem {text rest : List Char} {negative : Bool} (hsigns : Signs text negative rest)
    (hrest : ∀ character ∈ rest, IsNumberCharacter character) : ∀ character ∈ text, IsNumberCharacter character := by
  cases hsigns with
  | minus => exact List.forall_mem_cons.2 ⟨.inr (by decide), hrest⟩
  | plus => exact List.forall_mem_cons.2 ⟨.inr (by decide), hrest⟩
  | bare => exact hrest

theorem forall_mem_of_read? {digits : List Char} {number : Nat} (hread : Text.Numeral.read? 10 digits = some number) :
    ∀ character ∈ digits, IsNumberCharacter character :=
  fun character hmember ↦ .inl ((Text.Numeral.digits_of_read? hread).2 character hmember)

theorem WritesPower.forall_mem {text : List Char} {power : Int} (hwrites : WritesPower text power) :
    ∀ character ∈ text, IsNumberCharacter character := by
  cases hwrites with
  | none => nofun
  | power hmark hsign hread =>
    refine List.forall_mem_cons.2 ⟨.inr ?_, hsign.forall_mem (forall_mem_of_read? hread)⟩
    obtain rfl | rfl := hmark <;> decide

theorem WritesUnsigned.forall_mem {negative : Bool} {text : List Char} {literal : Literal}
    (hwrites : WritesUnsigned negative text literal) : ∀ character ∈ text, IsNumberCharacter character := by
  cases hwrites with
  | whole hread hpower => exact List.forall_mem_append.2 ⟨forall_mem_of_read? hread, hpower.forall_mem⟩
  | pointed hread hpower =>
    obtain ⟨hwhole, hfraction⟩ := List.forall_mem_append.1 (forall_mem_of_read? hread)
    exact List.forall_mem_append.2
      ⟨hwhole, List.forall_mem_cons.2 ⟨.inr (by decide), List.forall_mem_append.2 ⟨hfraction, hpower.forall_mem⟩⟩⟩

/-- A literal has no characters but those of numbers. -/
theorem Writes.forall_mem {text : List Char} {literal : Literal} (hwrites : Writes text literal) :
    ∀ character ∈ text, IsNumberCharacter character := by
  obtain ⟨negative, rest, hsigns, hunsigned⟩ := hwrites
  exact hsigns.forall_mem hunsigned.forall_mem

end HubRoutes.Number.Literal
