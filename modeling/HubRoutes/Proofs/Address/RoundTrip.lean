import HubRoutes.Address.Checksum
import HubRoutes.Address.Reading
import HubRoutes.Proofs.List
import HubRoutes.Proofs.Text.Blank
import HubRoutes.Proofs.Text.Numeral

/-!
# Written addresses are read back

The checksum decides about the case of the letters only. So the text of an address has two hexadecimal
digits for each byte whatever the digest is, and reading it yields the address.
-/

namespace HubRoutes.Address

open Text.Numeral (IsHexDigitOf)

/-! ## The digits of a written address -/

/-- The values of the digits of an address, two for each byte. -/
def digitValues (address : Address) : List Nat :=
  address.bytes.toList.flatMap fun byte ↦ [byte.toNat / 16, byte.toNat % 16]

/-- An address has forty digits. -/
theorem length_digitValues (address : Address) : address.digitValues.length = 40 := by
  simp [digitValues, List.length_flatMap, List.map_const']

theorem lt_of_mem_digitValues {address : Address} {value : Nat}
    (hvalue : value ∈ address.digitValues) : value < 16 := by
  rcases List.mem_flatMap.1 hvalue with ⟨byte, -, hbyte⟩
  have hbound : byte.toNat < 256 := byte.toNat_lt
  simp only [List.mem_cons, List.not_mem_nil, or_false] at hbyte
  omega

/-- The written digits are those of the values, in lower case. -/
theorem digits_eq_map (address : Address) :
    address.digits = address.digitValues.map Text.Numeral.hexDigit := by
  rw [digits, digitValues, List.map_flatMap]
  rfl

/-- A digest has thirty-two bytes, whatever the message is. -/
theorem length_digest (message : List UInt8) : (Keccak.digest message).length = 32 := by
  simp [Keccak.digest, Keccak.bytesOfLane, List.length_flatMap, List.map_const']

theorem length_digestDigits (digest : List UInt8) :
    (digestDigits digest).length = 2 * digest.length := by
  simp [digestDigits, List.length_flatMap, List.map_const', mul_comm]

/-- Capitals do not change the values of digits. -/
theorem forall₂_capitalise (values : List Nat) (marks : List Nat)
    (hmarks : values.length ≤ marks.length) :
    List.Forall₂ IsHexDigitOf values (capitalise (values.map Text.Numeral.hexDigit) marks) := by
  induction values generalizing marks with
  | nil => exact .nil
  | cons value rest ih =>
    cases marks with
    | nil => simp at hmarks
    | cons mark later =>
      have hrest : rest.length ≤ later.length := by simpa using hmarks
      refine .cons ?_ (ih later hrest)
      by_cases hlarge : mark ≥ 8
      · simp [IsHexDigitOf, hlarge]
      · simp [IsHexDigitOf, hlarge]

/-- Each character of a written address behind its mark is a digit of the address. -/
theorem forall₂_checksumDigits (address : Address) :
    List.Forall₂ IsHexDigitOf address.digitValues address.checksumDigits := by
  rw [checksumDigits, digits_eq_map]
  apply forall₂_capitalise
  rw [length_digitValues, length_digestDigits, length_digest]
  decide

section

variable {address : Address} {digits : List Char}

theorem bounded_of_forall₂ (hdigits : List.Forall₂ IsHexDigitOf address.digitValues digits) :
    List.Forall₂ (fun value character ↦ value < 16 ∧ IsHexDigitOf value character) address.digitValues
      digits :=
  (List.forall₂_and_left _ _).2 ⟨fun _ ↦ lt_of_mem_digitValues, hdigits⟩

theorem mem_alphabet_of_forall₂ (hdigits : List.Forall₂ IsHexDigitOf address.digitValues digits) :
    ∀ digit ∈ digits, digit ∈ "0123456789abcdefABCDEF".toList := by
  intro digit hdigit
  obtain ⟨value, -, hvalue, hdigit⟩ := exists_left_of_forall₂ (bounded_of_forall₂ hdigits) hdigit
  exact hdigit.mem_alphabet hvalue

end

/-- A written form is the mark and forty digits in checksum case. -/
theorem toList_text (address : Address) : address.text.toList = '0' :: 'x' :: address.checksumDigits := by
  rw [text, String.toList_ofList]

theorem mem_alphabet_of_mem_text {address : Address} {character : Char}
    (hcharacter : character ∈ address.text.toList) :
    character ∈ "0123456789abcdefABCDEFx".toList := by
  have hmark : ∀ digit ∈ "0123456789abcdefABCDEF".toList,
      digit ∈ "0123456789abcdefABCDEFx".toList := by simp
  rw [toList_text, List.mem_cons, List.mem_cons] at hcharacter
  rcases hcharacter with rfl | rfl | hdigit
  · decide
  · decide
  · exact hmark character (mem_alphabet_of_forall₂ address.forall₂_checksumDigits character hdigit)

theorem isBlank_eq_false_of_mem_alphabet {character : Char}
    (hcharacter : character ∈ "0123456789abcdefABCDEFx".toList) : Text.Blank.isBlank character = false := by
  have hall : "0123456789abcdefABCDEFx".toList.all (fun character ↦
      !Text.Blank.isBlank character) = true := by decide
  simpa using List.all_eq_true.1 hall character hcharacter

/-! ## Reading the digits -/

theorem utf8EncodeChar_of_mem_alphabet {character : Char}
    (hcharacter : character ∈ "0123456789abcdefABCDEF".toList) :
    String.utf8EncodeChar character = [character.toNat.toUInt8] ∧
      Char.ofNat character.toNat.toUInt8.toNat = character := by
  have hall : "0123456789abcdefABCDEF".toList.all (fun character ↦
      String.utf8EncodeChar character == [character.toNat.toUInt8] &&
        Char.ofNat character.toNat.toUInt8.toNat == character) = true := by decide
  simpa using List.all_eq_true.1 hall character hcharacter

/-- The bytes of written digits have their values for the reader. -/
theorem map_digitValue?_of_forall₂ {values : List Nat} {digits : List Char}
    (hdigits : List.Forall₂ IsHexDigitOf values digits) (hvalues : ∀ value ∈ values, value < 16) :
    digits.map (fun digit ↦ digitValue? digit.toNat.toUInt8) = values.map some := by
  induction hdigits with
  | nil => rfl
  | @cons value digit laterValues laterDigits hdigit _ ih =>
    have hvalue : value < 16 := hvalues value List.mem_cons_self
    have hcharacter : Char.ofNat digit.toNat.toUInt8.toNat = digit :=
      (utf8EncodeChar_of_mem_alphabet (hdigit.mem_alphabet hvalue)).2
    have hlater := ih fun later hmember ↦ hvalues later (List.mem_cons_of_mem _ hmember)
    rw [List.map_cons, List.map_cons, hlater, digitValue?, hcharacter, hdigit.digitValue? hvalue]

/-- Where every byte has a value none is to blame. -/
theorem firstBadDigit_eq_none {bytes : List UInt8} {values : List Nat} (position : Nat)
    (hvalues : bytes.map digitValue? = values.map some) : firstBadDigit position bytes = none := by
  induction bytes generalizing position values with
  | nil => rfl
  | cons byte rest ih =>
    cases values with
    | nil => simp at hvalues
    | cons value later =>
      obtain ⟨hbyte, hrest⟩ := List.cons.inj hvalues
      rw [firstBadDigit, hbyte]
      exact ih (position + 1) hrest

theorem valueAt_of_map {bytes : List UInt8} {values : List Nat} (position : Nat)
    (hvalues : bytes.map digitValue? = values.map some) :
    valueAt bytes position = values[position]?.getD 0 := by
  have hdigit : bytes[position]?.map digitValue? = values[position]?.map some := by
    rw [← List.getElem?_map, ← List.getElem?_map, hvalues]
  rw [valueAt]
  cases hbyte : bytes[position]? with
  | none =>
    rw [hbyte] at hdigit
    cases hvalue : values[position]? with
    | none => rfl
    | some value => simp [hvalue] at hdigit
  | some byte =>
    rw [hbyte] at hdigit
    cases hvalue : values[position]? with
    | none => simp [hvalue] at hdigit
    | some value =>
      have hread : digitValue? byte = some value := by simpa [hvalue] using hdigit
      simp [hread]

/-- The digits of a byte stand at twice its index and behind it. -/
theorem getElem?_pairs (bytes : List UInt8) (index : Nat) :
    (bytes.flatMap fun byte ↦ [byte.toNat / 16, byte.toNat % 16])[2 * index]? =
        bytes[index]?.map (fun byte ↦ byte.toNat / 16) ∧
      (bytes.flatMap fun byte ↦ [byte.toNat / 16, byte.toNat % 16])[2 * index + 1]? =
        bytes[index]?.map (fun byte ↦ byte.toNat % 16) := by
  induction bytes generalizing index with
  | nil => simp
  | cons byte rest ih =>
    cases index with
    | zero => simp
    | succ index =>
      have hnext : 2 * (index + 1) = 2 * index + 1 + 1 := by omega
      simpa [hnext] using ih index

section

variable {bytes : List UInt8} {address : Address}

/-- Bytes whose values are the digits of an address stand for the address. -/
theorem ofDigitBytes_eq (hvalues : bytes.map digitValue? = address.digitValues.map some) :
    ofDigitBytes bytes = address := by
  have hbytes : ∀ index : Nat, (hindex : index < 20) →
      (16 * valueAt bytes (2 * index) + valueAt bytes (2 * index + 1)).toUInt8 =
        address.bytes[index] := by
    intro index hindex
    obtain ⟨hhigh, hlow⟩ := getElem?_pairs address.bytes.toList index
    have hbyte : address.bytes.toList[index]? = some address.bytes[index] := by simp
    have hwhole : 16 * (address.bytes[index].toNat / 16) + address.bytes[index].toNat % 16 =
        address.bytes[index].toNat := Nat.div_add_mod _ 16
    rw [valueAt_of_map _ hvalues, valueAt_of_map _ hvalues, digitValues, hhigh, hlow, hbyte,
      Option.map_some, Option.map_some, Option.getD_some, Option.getD_some, hwhole]
    exact UInt8.ofNat_toNat
  have hvector : (ofDigitBytes bytes).bytes = address.bytes := by
    ext index hindex
    rw [ofDigitBytes, Vector.getElem_ofFn, hbytes index hindex]
  cases address
  exact congrArg Address.mk hvector

/-- A text whose digit bytes have the values of the digits of an address is read as the address. -/
theorem read_eq_ok {input : String}
    (hvalues : (digitBytes input.toList).map digitValue? = address.digitValues.map some) :
    read input = .ok address := by
  have hlength : (digitBytes input.toList).length = 40 := by
    have hlengths := congrArg List.length hvalues
    rwa [List.length_map, List.length_map, length_digitValues] at hlengths
  have hgood := firstBadDigit_eq_none 0 hvalues
  simp [read, hlength, hgood, ofDigitBytes_eq hvalues]

/-- A text that has the digits of an address in their place, in whatever case, is read as the address. -/
theorem read_of_forall₂ {input : String} {digits : List Char}
    (hplace : dropHexMark (Text.Blank.trim input.toList) = digits)
    (hdigits : List.Forall₂ IsHexDigitOf address.digitValues digits) : read input = .ok address := by
  have hbytes : digitBytes input.toList = digits.map fun digit ↦ digit.toNat.toUInt8 := by
    rw [digitBytes, hplace, List.map_eq_flatMap]
    apply List.flatMap_congr
    intro digit hdigit
    exact (utf8EncodeChar_of_mem_alphabet (mem_alphabet_of_forall₂ hdigits digit hdigit)).1
  apply read_eq_ok
  rw [hbytes, List.map_map]
  exact map_digitValue?_of_forall₂ hdigits fun _ ↦ lt_of_mem_digitValues

end

/-- Reading the text of an address yields the address. -/
theorem read_text (address : Address) : read address.text = .ok address := by
  have hvisible : ∀ character ∈ address.text.toList, Text.Blank.isBlank character = false := by
    intro character hcharacter
    exact isBlank_eq_false_of_mem_alphabet (mem_alphabet_of_mem_text hcharacter)
  have hplace : dropHexMark (Text.Blank.trim address.text.toList) = address.checksumDigits := by
    rw [Text.Blank.trim_eq_self hvisible, toList_text, dropHexMark]
  exact read_of_forall₂ hplace address.forall₂_checksumDigits

/-- Two addresses never have one written form. -/
theorem text_injective : Function.Injective text := by
  intro first second hsame
  have hread := read_text first
  rw [hsame, read_text] at hread
  exact (Except.ok.inj hread).symm

end HubRoutes.Address
