import HubRoutes.Proofs.Address.RoundTrip
import HubRoutes.Proofs.List

/-!
# The grammar of written addresses

Reading is compared with a grammar that names no function of the reader: a text holds its digits between
blanks and behind an optional mark, two digits spell a byte, and forty of them spell an address. What the
grammar accepts is read as the address that it spells. Every other text is refused for the one reason that
applies to the bytes of its digits, the length before the digits themselves.
-/

namespace HubRoutes.Address

open Text.Blank (IsTrimOf)

/-! ## Where the digits are -/

/-- The digits behind the mark of hexadecimal numbers, or the whole text where it has no mark. -/
inductive Unmarks : List Char → List Char → Prop
  | lower (digits : List Char) : Unmarks ('0' :: 'x' :: digits) digits
  | upper (digits : List Char) : Unmarks ('0' :: 'X' :: digits) digits
  | bare {text : List Char} (hlower : ¬['0', 'x'] <+: text) (hupper : ¬['0', 'X'] <+: text) :
      Unmarks text text

/-- The characters of a text that have to be the digits of an address. -/
def HoldsDigits (input : String) (digits : List Char) : Prop :=
  ∃ body, IsTrimOf body input.toList ∧ Unmarks body digits

/-- The reader takes the mark away from exactly the texts that have one. -/
theorem unmarks_iff {text digits : List Char} : Unmarks text digits ↔ digits = dropHexMark text := by
  constructor
  · intro hunmarks
    cases hunmarks with
    | lower => rfl
    | upper => rfl
    | bare hlower hupper =>
      unfold dropHexMark
      split
      · exact absurd (List.prefix_append ['0', 'x'] _) hlower
      · exact absurd (List.prefix_append ['0', 'X'] _) hupper
      · rfl
  · rintro rfl
    unfold dropHexMark
    split
    · exact .lower _
    · exact .upper _
    · next hlower hupper =>
      refine .bare ?_ ?_
      · rintro ⟨rest, rfl⟩
        exact hlower rest rfl
      · rintro ⟨rest, rfl⟩
        exact hupper rest rfl

/-- What the reader looks at are the characters behind the blanks and the mark. -/
theorem holdsDigits_iff {input : String} {digits : List Char} :
    HoldsDigits input digits ↔ digits = dropHexMark (Text.Blank.trim input.toList) := by
  simp only [HoldsDigits, Text.Blank.isTrimOf_iff, unmarks_iff, exists_eq_left]

/-! ## The values of digits -/

/-- The value of a byte that is a decimal digit or one of the letters up to `f`, of either case. -/
inductive HasValue : UInt8 → Nat → Prop
  | decimal {value : Nat} (hvalue : value < 10) : HasValue ('0'.toNat + value).toUInt8 value
  | lower {value : Nat} (hvalue : value < 6) : HasValue ('a'.toNat + value).toUInt8 (10 + value)
  | upper {value : Nat} (hvalue : value < 6) : HasValue ('A'.toNat + value).toUInt8 (10 + value)

/-- Whether a byte is a hexadecimal digit. -/
def IsDigit (byte : UInt8) : Prop := ∃ value, HasValue byte value

/-- The reader gives a byte the value that it has as a digit, and no other byte has one. -/
theorem digitValue?_eq_some_iff {byte : UInt8} {value : Nat} :
    digitValue? byte = some value ↔ HasValue byte value := by
  constructor
  · intro hread
    have hcode : (Char.ofNat byte.toNat).toNat = byte.toNat := by
      have hvalid : byte.toNat.isValidChar := by
        have := byte.toNat_lt
        left
        omega
      rw [Char.ofNat, dif_pos hvalid]
      rfl
    have hbyte (code : Nat) (hsame : byte.toNat = code) : byte = code.toUInt8 := by
      rw [← hsame]
      exact UInt8.ofNat_toNat.symm
    simp only [digitValue?, Text.Numeral.digitValue?, hcode, Bool.and_eq_true, decide_eq_true_eq] at hread
    split_ifs at hread with hdecimal _ hlower _ hupper
    · have hvalue : value < 10 ∧ byte.toNat = 48 + value := by
        have := Option.some.inj hread
        omega
      rw [hbyte ('0'.toNat + value) hvalue.2]
      exact .decimal hvalue.1
    · obtain ⟨unit, rfl, hvalue⟩ : ∃ unit, value = 10 + unit ∧ unit < 6 ∧ byte.toNat = 97 + unit := by
        have := Option.some.inj hread
        exact ⟨value - 10, by omega⟩
      rw [hbyte ('a'.toNat + unit) hvalue.2]
      exact .lower hvalue.1
    · obtain ⟨unit, rfl, hvalue⟩ : ∃ unit, value = 10 + unit ∧ unit < 6 ∧ byte.toNat = 65 + unit := by
        have := Option.some.inj hread
        exact ⟨value - 10, by omega⟩
      rw [hbyte ('A'.toNat + unit) hvalue.2]
      exact .upper hvalue.1
    · omega
  · intro hvalue
    cases hvalue with
    | @decimal value hvalue => revert value; decide
    | @lower value hvalue => revert value; decide
    | @upper value hvalue => revert value; decide

theorem HasValue.lt {byte : UInt8} {value : Nat} (hvalue : HasValue byte value) : value < 16 := by
  cases hvalue <;> omega

theorem isDigit_iff {byte : UInt8} : IsDigit byte ↔ digitValue? byte ≠ none := by
  simp only [IsDigit, ← digitValue?_eq_some_iff, ← Option.isSome_iff_exists, Option.isSome_iff_ne_none]

/-! ## Bytes spelt by digits -/

/-- Digits spell bytes if each two of them in turn have the value of a byte, the upper half first. -/
inductive Spells : List UInt8 → List UInt8 → Prop
  | nil : Spells [] []
  | cons {high low : UInt8} {upper lower : Nat} {digits bytes : List UInt8} (hhigh : HasValue high upper)
      (hlow : HasValue low lower) (hrest : Spells digits bytes) :
      Spells (high :: low :: digits) ((16 * upper + lower).toUInt8 :: bytes)

/-- Digits spell bytes exactly if their values are the halves of the bytes in turn. -/
theorem spells_iff {digits bytes : List UInt8} : Spells digits bytes ↔
    List.Forall₂ HasValue digits (bytes.flatMap fun byte ↦ [byte.toNat / 16, byte.toNat % 16]) := by
  constructor
  · intro hspells
    induction hspells with
    | nil => exact .nil
    | @cons high low upper lower digits bytes hhigh hlow _ ih =>
      have hupper := hhigh.lt
      have hlower := hlow.lt
      have hbyte : (16 * upper + lower).toUInt8.toNat = 16 * upper + lower :=
        UInt8.toNat_ofNat_of_lt (by change _ < 256; omega)
      have hhalves : (16 * upper + lower) / 16 = upper ∧ (16 * upper + lower) % 16 = lower := by omega
      rw [List.flatMap_cons, hbyte, hhalves.1, hhalves.2]
      exact .cons hhigh (.cons hlow ih)
  · intro hvalues
    induction bytes generalizing digits with
    | nil =>
      cases hvalues
      exact .nil
    | cons byte rest ih =>
      cases hvalues with
      | cons hhigh hlater =>
        cases hlater with
        | cons hlow hrest =>
          have hbyte : (16 * (byte.toNat / 16) + byte.toNat % 16).toUInt8 = byte := by
            rw [Nat.div_add_mod]
            exact UInt8.ofNat_toNat
          have hspells := Spells.cons hhigh hlow (ih hrest)
          rwa [hbyte] at hspells

/-- An even number of digits spells half as many bytes. -/
theorem exists_spells {digits : List UInt8} (count : Nat) (hlength : digits.length = 2 * count)
    (hdigits : ∀ byte ∈ digits, IsDigit byte) : ∃ bytes, bytes.length = count ∧ Spells digits bytes := by
  induction count generalizing digits with
  | zero =>
    obtain rfl : digits = [] := List.length_eq_zero_iff.1 hlength
    exact ⟨[], rfl, .nil⟩
  | succ count ih =>
    match digits, hlength with
    | high :: low :: rest, hlength =>
      obtain ⟨⟨upper, hhigh⟩, hlater⟩ := List.forall_mem_cons.1 hdigits
      obtain ⟨⟨lower, hlow⟩, hrest⟩ := List.forall_mem_cons.1 hlater
      have hcount : rest.length = 2 * count := by simpa [Nat.mul_succ] using hlength
      obtain ⟨bytes, hbytes, hspells⟩ := ih hcount hrest
      exact ⟨_ :: bytes, congrArg Nat.succ hbytes, .cons hhigh hlow hspells⟩

/-! ## What is read -/

theorem map_digitValue?_eq_iff {digits : List UInt8} {values : List Nat} :
    digits.map digitValue? = values.map some ↔ List.Forall₂ HasValue digits values := by
  rw [← List.forall₂_eq_eq_eq, List.forall₂_map_left_iff, List.forall₂_map_right_iff]
  simp only [digitValue?_eq_some_iff]

/-- No byte is to blame if all of them are digits. -/
theorem firstBadDigit_eq_none_iff {position : Nat} {bytes : List UInt8} :
    firstBadDigit position bytes = none ↔ ∀ byte ∈ bytes, IsDigit byte := by
  induction bytes generalizing position with
  | nil => simp [firstBadDigit]
  | cons byte rest ih =>
    rw [firstBadDigit, List.forall_mem_cons, isDigit_iff]
    cases digitValue? byte with
    | none => simp
    | some value => simp [ih]

/-- The byte to blame is the first one that is no digit, whatever comes behind it. -/
theorem firstBadDigit_eq_some_iff {start : Nat} {bytes : List UInt8} {byte : UInt8} {position : Nat} :
    firstBadDigit start bytes = some (byte, position) ↔ ∃ earlier later,
      bytes = earlier ++ byte :: later ∧ start + earlier.length = position ∧
        (∀ passed ∈ earlier, IsDigit passed) ∧ ¬IsDigit byte := by
  induction bytes generalizing start with
  | nil => simp [firstBadDigit]
  | cons first rest ih =>
    rw [firstBadDigit]
    cases hfirst : digitValue? first with
    | none =>
      have hbad : ¬IsDigit first := by
        rw [isDigit_iff, not_not]
        exact hfirst
      constructor
      · intro hfound
        cases hfound
        exact ⟨[], rest, rfl, rfl, List.forall_mem_nil _, hbad⟩
      · intro hsplit
        obtain ⟨earlier, later, hbytes, hposition, hpassed, -⟩ := hsplit
        cases earlier with
        | nil =>
          rw [(List.cons.inj hbytes).1, ← hposition]
          rfl
        | cons head tail =>
          rw [(List.cons.inj hbytes).1] at hbad
          exact absurd (hpassed head List.mem_cons_self) hbad
    | some value =>
      have hgood : IsDigit first := ⟨value, digitValue?_eq_some_iff.1 hfirst⟩
      change firstBadDigit (start + 1) rest = some (byte, position) ↔ _
      rw [ih]
      constructor
      · intro hsplit
        obtain ⟨earlier, later, rfl, hposition, hpassed, hbad⟩ := hsplit
        refine ⟨first :: earlier, later, rfl, ?_, List.forall_mem_cons.2 ⟨hgood, hpassed⟩, hbad⟩
        rw [List.length_cons, ← hposition]
        omega
      · intro hsplit
        obtain ⟨earlier, later, hbytes, hposition, hpassed, hbad⟩ := hsplit
        cases earlier with
        | nil =>
          cases hbytes
          exact absurd hgood hbad
        | cons head tail =>
          cases hbytes
          refine ⟨tail, later, rfl, ?_, (List.forall_mem_cons.1 hpassed).2, hbad⟩
          rw [← hposition, List.length_cons]
          omega

/-- The one reason for which digits are refused, with its wording. -/
def Explains (bytes : List UInt8) (wording : String) : Reason → Prop
  | .oddLength => bytes.length % 2 = 1 ∧ wording = "odd number of digits"
  | .wrongLength =>
    bytes.length % 2 = 0 ∧ bytes.length ≠ 40 ∧ wording = "invalid string length"
  | .badDigit byte position => bytes.length = 40 ∧
    (∃ earlier later, bytes = earlier ++ byte :: later ∧ earlier.length = position ∧
      (∀ passed ∈ earlier, IsDigit passed) ∧ ¬IsDigit byte) ∧
    wording = "invalid character " ++ Text.Quoted.character (Char.ofNat byte.toNat) ++
      " at position " ++ Text.Numeral.text position

theorem read_eq_ok_of_spells {input : String} {address : Address}
    (hspells : Spells (digitBytes input.toList) address.bytes.toList) : read input = .ok address := by
  apply read_eq_ok
  rw [map_digitValue?_eq_iff, digitValues]
  exact spells_iff.1 hspells

/-- Forty digits always spell an address. -/
theorem exists_spells_address {bytes : List UInt8} (hlength : bytes.length = 40)
    (hdigits : ∀ byte ∈ bytes, IsDigit byte) : ∃ address : Address, Spells bytes address.bytes.toList := by
  obtain ⟨spelt, hspelt, hspells⟩ := exists_spells 20 hlength hdigits
  exact ⟨⟨⟨spelt.toArray, hspelt⟩⟩, hspells⟩

/-- A text is read as the one address that its digits spell. -/
theorem read_eq_ok_iff (input : String) (address : Address) :
    read input = .ok address ↔ Spells (digitBytes input.toList) address.bytes.toList := by
  constructor
  · intro hread
    have hparts : (digitBytes input.toList).length = 40 ∧
        firstBadDigit 0 (digitBytes input.toList) = none := by
      simp only [read] at hread
      split_ifs at hread with hodd hlength
      cases hbad : firstBadDigit 0 (digitBytes input.toList) with
      | some found => simp [hbad] at hread
      | none => exact ⟨not_not.1 hlength, rfl⟩
    obtain ⟨spelt, hspells⟩ := exists_spells_address hparts.1 (firstBadDigit_eq_none_iff.1 hparts.2)
    have hspelt := read_eq_ok_of_spells hspells
    rw [hread] at hspelt
    rwa [Except.ok.inj hspelt]
  · exact read_eq_ok_of_spells

/-- A refusal names the text as it was given and the one reason that explains it. -/
theorem read_eq_error_iff (input : String) (fault : Fault) :
    read input = .error fault ↔ fault.input = input ∧
      Explains (digitBytes input.toList) fault.reason.message fault.reason := by
  rcases fault with ⟨given, reason⟩
  constructor
  · intro hread
    simp only [read] at hread
    split_ifs at hread with hodd hlength
    · cases hread
      exact ⟨rfl, hodd, rfl⟩
    · cases hread
      exact ⟨rfl, Nat.mod_two_ne_one.1 hodd, hlength, rfl⟩
    · cases hfound : firstBadDigit 0 (digitBytes input.toList) with
      | none => simp [hfound] at hread
      | some found =>
        obtain ⟨byte, position⟩ := found
        rw [hfound] at hread
        cases hread
        obtain ⟨earlier, later, hbytes, hposition, hpassed, hbad⟩ := firstBadDigit_eq_some_iff.1 hfound
        rw [Nat.zero_add] at hposition
        exact ⟨rfl, not_not.1 hlength, ⟨earlier, later, hbytes, hposition, hpassed, hbad⟩, rfl⟩
  · intro hexplains
    obtain ⟨rfl, hexplains⟩ := hexplains
    cases reason with
    | oddLength => simp [read, hexplains.1]
    | wrongLength =>
      simp [read, hexplains.1, hexplains.2.1]
    | badDigit byte position =>
      obtain ⟨hlength, ⟨earlier, later, hbytes, hposition, hpassed, hbad⟩, -⟩ := hexplains
      have hfirst : firstBadDigit 0 (digitBytes given.toList) = some (byte, position) :=
        firstBadDigit_eq_some_iff.2 ⟨earlier, later, hbytes, by rw [hposition, Nat.zero_add], hpassed, hbad⟩
      simp [read, hlength, hfirst]

/-- A text has one place for the digits of an address. It is read exactly if forty hexadecimal digits stand
there, and then as the address that they spell. Every other text is refused as it was given, for the one
reason that applies to the bytes in that place. -/
theorem read_follows_grammar (input : String) :
    ∃ digits, (∀ other, HoldsDigits input other ↔ other = digits) ∧
      ∃ bytes, bytes = digits.flatMap String.utf8EncodeChar ∧
        ((∃ address, read input = .ok address) ↔ bytes.length = 40 ∧ ∀ byte ∈ bytes, IsDigit byte) ∧
        (∀ address, read input = .ok address ↔ Spells bytes address.bytes.toList) ∧
        ∀ fault, read input = .error fault ↔
          fault.input = input ∧ Explains bytes fault.reason.message fault.reason := by
  refine ⟨_, fun other ↦ holdsDigits_iff, digitBytes input.toList, rfl, ?_, read_eq_ok_iff input,
    read_eq_error_iff input⟩
  constructor
  · intro hread
    obtain ⟨address, hread⟩ := hread
    have hvalues := spells_iff.1 ((read_eq_ok_iff input address).1 hread)
    refine ⟨hvalues.length_eq.trans address.length_digitValues, fun byte hbyte ↦ ?_⟩
    obtain ⟨value, -, hvalue⟩ := exists_right_of_forall₂ hvalues hbyte
    exact ⟨value, hvalue⟩
  · intro hparts
    obtain ⟨address, hspells⟩ := exists_spells_address hparts.1 hparts.2
    exact ⟨address, read_eq_ok_of_spells hspells⟩

end HubRoutes.Address
