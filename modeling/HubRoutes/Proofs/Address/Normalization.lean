import HubRoutes.Proofs.Address.Grammar
import HubRoutes.Proofs.Schema.RoundTrip
import Mathlib.Data.List.TFAE

/-!
# One written form for each address

Of all the texts that are read as one address the address itself is written as one: the form in checksum
case. The others differ from it in the case of letters, in the mark and in blanks around, and in nothing else.
Neither which of them was read nor what the checksum is has any influence on the bytes, so texts stand for
one address exactly if their digits agree up to case.
-/

namespace HubRoutes.Address

open Text.Numeral (IsHexDigitOf hexDigit)

/-! ## The digits of a text that is read -/

/-- A character beyond ASCII begins with a byte that is no digit. -/
theorem exists_large_of_utf8EncodeChar {character : Char} (hlarge : 127 < character.val.toNat) :
    ∃ first rest, String.utf8EncodeChar character = first :: rest ∧ 192 ≤ first.toNat := by
  rw [String.utf8EncodeChar]
  simp only [not_le.2 hlarge, if_false]
  split_ifs
  · exact ⟨_, _, rfl, by rw [UInt8.toNat_ofNat']; omega⟩
  · exact ⟨_, _, rfl, by rw [UInt8.toNat_ofNat']; omega⟩
  · exact ⟨_, _, rfl, by rw [UInt8.toNat_ofNat']; omega⟩

theorem HasValue.toNat_le {byte : UInt8} {value : Nat} (hvalue : HasValue byte value) :
    byte.toNat ≤ 102 := by
  cases hvalue with
  | @decimal value hvalue => revert value; decide
  | @lower value hvalue => revert value; decide
  | @upper value hvalue => revert value; decide

theorem HasValue.isHexDigitOf {byte : UInt8} {value : Nat} (hvalue : HasValue byte value) :
    IsHexDigitOf value (Char.ofNat byte.toNat) := by
  unfold IsHexDigitOf
  cases hvalue with
  | @decimal value hvalue => revert value; decide
  | @lower value hvalue => revert value; decide
  | @upper value hvalue => revert value; decide

/-- A character whose bytes are digits is one digit. -/
theorem exists_isHexDigitOf {character : Char} {values : List Nat}
    (hvalues : List.Forall₂ HasValue (String.utf8EncodeChar character) values) :
    ∃ value, values = [value] ∧ IsHexDigitOf value character := by
  rcases Nat.lt_or_ge 127 character.val.toNat with hlarge | hsmall
  · obtain ⟨first, rest, hbytes, hfirst⟩ := exists_large_of_utf8EncodeChar hlarge
    rw [hbytes] at hvalues
    cases hvalues with
    | cons hvalue _ =>
      have hbound := hvalue.toNat_le
      omega
  · have hbytes : String.utf8EncodeChar character = [character.toNat.toUInt8] := if_pos hsmall
    rw [hbytes] at hvalues
    cases hvalues with
    | cons hvalue hrest =>
      cases hrest
      have hdigit := hvalue.isHexDigitOf
      have hcode : character.toNat.toUInt8.toNat = character.toNat :=
        UInt8.toNat_ofNat_of_lt (lt_of_le_of_lt hsmall (by decide))
      rw [hcode, Char.ofNat_toNat] at hdigit
      exact ⟨_, rfl, hdigit⟩

theorem forall₂_isHexDigitOf {digits : List Char} {values : List Nat}
    (hvalues : List.Forall₂ HasValue (digits.flatMap String.utf8EncodeChar) values) :
    List.Forall₂ IsHexDigitOf values digits := by
  induction digits generalizing values with
  | nil =>
    cases hvalues
    exact .nil
  | cons character rest ih =>
    rw [List.flatMap_cons, forall₂_append_left_iff] at hvalues
    obtain ⟨front, back, hfront, hback, rfl⟩ := hvalues
    obtain ⟨value, rfl, hdigit⟩ := exists_isHexDigitOf hfront
    exact .cons hdigit (ih hback)

section

variable {input : String} {digits : List Char} {address : Address}

/-- The digits of a text that is read are the digits of the address, each in the one or the other case. -/
theorem forall₂_of_read (hholds : HoldsDigits input digits) (hread : read input = .ok address) :
    List.Forall₂ IsHexDigitOf address.digitValues digits := by
  apply forall₂_isHexDigitOf
  rw [holdsDigits_iff.1 hholds]
  exact spells_iff.1 ((read_eq_ok_iff input address).1 hread)

/-- In lower case they are the digits of the address. -/
theorem map_toLower_eq (hdigits : List.Forall₂ IsHexDigitOf address.digitValues digits) :
    digits.map Char.toLower = address.digits := by
  rw [digits_eq_map]
  symm
  apply map_eq_map_of_forall₂ _ (bounded_of_forall₂ hdigits)
  intro value character hdigit
  exact (hdigit.2.toLower_eq hdigit.1).symm

end

/-- The bytes of an address are told by its digits. -/
theorem digits_injective : Function.Injective digits := by
  intro first second hsame
  have hdigits (address : Address) : List.Forall₂ IsHexDigitOf address.digitValues address.digits := by
    rw [digits_eq_map, List.forall₂_map_right_iff, List.forall₂_same]
    exact fun value _ ↦ .inl rfl
  have hvalues (address : Address) : (address.digits.map fun digit ↦ digit.toNat.toUInt8).map digitValue? =
      address.digitValues.map some := by
    rw [List.map_map]
    exact map_digitValue?_of_forall₂ (hdigits address) fun _ ↦ lt_of_mem_digitValues
  have hfirst := ofDigitBytes_eq (hvalues first)
  rwa [hsame, ofDigitBytes_eq (hvalues second), eq_comm] at hfirst

/-! ## Texts that differ in looks only -/

/-- A character is another one, or the same letter in the other case. -/
def SameLetter (first second : Char) : Prop :=
  second = first ∨ second = first.toLower ∨ second = first.toUpper

/-- A text differs from the written form of an address in the case of letters, in blanks around it, and in
that the mark may be missing. -/
def Respells (address : Address) (input : String) : Prop :=
  ∃ front written back, input.toList = front ++ written ++ back ∧
    (∀ character ∈ front, Text.Blank.isBlank character = true) ∧
    (∀ character ∈ back, Text.Blank.isBlank character = true) ∧
    (List.Forall₂ SameLetter address.text.toList written ∨
      List.Forall₂ SameLetter (address.text.toList.drop 2) written)

theorem sameLetter_of_isHexDigitOf {value : Nat} {first second : Char} (hvalue : value < 16)
    (hfirst : IsHexDigitOf value first) (hsecond : IsHexDigitOf value second) :
    SameLetter first second := by
  rcases hsecond with rfl | rfl
  · exact .inr (.inl (hfirst.toLower_eq hvalue).symm)
  · rcases hfirst with rfl | rfl
    · exact .inr (.inr rfl)
    · exact .inl rfl

/-- A digit keeps its value in the other case. -/
theorem isHexDigitOf_of_sameLetter {value : Nat} {first second : Char} (hvalue : value < 16)
    (hfirst : IsHexDigitOf value first) (hsame : SameLetter first second) :
    IsHexDigitOf value second := by
  rcases hsame with rfl | rfl | rfl
  · exact hfirst
  · exact .inl (hfirst.toLower_eq hvalue)
  · rcases hfirst with rfl | rfl
    · exact .inr rfl
    · right
      revert value
      decide

section

variable {input : String} {digits : List Char} {address : Address}

/-- A text that is read as an address differs from its written form only in case, mark and blanks. -/
theorem respells_of_read (hread : read input = .ok address) : Respells address input := by
  obtain ⟨body, htrim, hunmarks⟩ : HoldsDigits input _ := holdsDigits_iff.2 rfl
  have hdigits := forall₂_of_read ⟨body, htrim, hunmarks⟩ hread
  have hletters := forall₂_of_common (T := SameLetter)
    (fun _ _ _ hfirst hsecond ↦ sameLetter_of_isHexDigitOf hfirst.1 hfirst.2 hsecond)
    (bounded_of_forall₂ address.forall₂_checksumDigits) hdigits
  obtain ⟨front, back, hinput, hfront, hback, -, -⟩ := htrim
  refine ⟨front, body, back, hinput, hfront, hback, ?_⟩
  rw [toList_text]
  generalize dropHexMark (Text.Blank.trim input.toList) = digits at hunmarks hletters
  cases hunmarks with
  | lower => exact .inl (.cons (.inl rfl) (.cons (.inl rfl) hletters))
  | upper => exact .inl (.cons (.inl rfl) (.cons (.inr (.inr rfl)) hletters))
  | bare => exact .inr hletters

theorem forall₂_isHexDigitOf_of_sameLetter
    (hletters : List.Forall₂ SameLetter address.checksumDigits digits) :
    List.Forall₂ IsHexDigitOf address.digitValues digits :=
  forall₂_of_common (T := IsHexDigitOf)
    (fun _ _ _ hcommon hletter ↦ isHexDigitOf_of_sameLetter hcommon.1 hcommon.2 hletter)
    (bounded_of_forall₂ address.forall₂_checksumDigits).flip hletters

/-- The digits of an address have no mark among them. -/
theorem unmarks_self (hdigits : List.Forall₂ IsHexDigitOf address.digitValues digits) :
    Unmarks digits digits := by
  have halphabet := mem_alphabet_of_forall₂ hdigits
  refine .bare ?_ ?_
  · intro hmark
    exact absurd (halphabet 'x' (hmark.subset (by decide))) (by decide)
  · intro hmark
    exact absurd (halphabet 'X' (hmark.subset (by decide))) (by decide)

/-- Behind the mark of such a text, if it has one, stand the digits of the address. -/
theorem exists_unmarks {written : List Char}
    (hwritten : List.Forall₂ SameLetter address.text.toList written ∨
      List.Forall₂ SameLetter (address.text.toList.drop 2) written) :
    ∃ digits, Unmarks written digits ∧ List.Forall₂ IsHexDigitOf address.digitValues digits := by
  rw [toList_text] at hwritten
  rcases hwritten with hmarked | hbare
  · cases hmarked with
    | @cons _ zero _ _ hzero hmarked =>
      cases hmarked with
      | @cons _ mark _ digits hmark hletters =>
        have hdigits := forall₂_isHexDigitOf_of_sameLetter hletters
        obtain rfl : zero = '0' := by rcases hzero with rfl | rfl | rfl <;> rfl
        rcases hmark with rfl | rfl | rfl
        · exact ⟨digits, .lower digits, hdigits⟩
        · exact ⟨digits, .lower digits, hdigits⟩
        · exact ⟨digits, .upper digits, hdigits⟩
  · have hdigits := forall₂_isHexDigitOf_of_sameLetter hbare
    exact ⟨written, unmarks_self hdigits, hdigits⟩

theorem isBlank_eq_false_of_unmarks {written : List Char} (hunmarks : Unmarks written digits)
    (hdigits : List.Forall₂ IsHexDigitOf address.digitValues digits) :
    ∀ character ∈ written, Text.Blank.isBlank character = false := by
  have hvisible : ∀ character ∈ '0' :: 'x' :: 'X' :: digits, Text.Blank.isBlank character = false := by
    have halphabet : "0123456789abcdefABCDEF".toList ⊆ "0123456789abcdefABCDEFx".toList := by simp
    simp only [List.forall_mem_cons]
    exact ⟨by decide, by decide, by decide, fun digit hdigit ↦
      isBlank_eq_false_of_mem_alphabet (halphabet (mem_alphabet_of_forall₂ hdigits digit hdigit))⟩
  intro character hcharacter
  apply hvisible
  cases hunmarks with
  | lower => exact List.cons_subset_cons _ (List.cons_subset_cons _ (List.subset_cons_self _ _)) hcharacter
  | upper => exact List.cons_subset_cons _ (List.subset_cons_self _ _) hcharacter
  | bare => simp [hcharacter]

/-- A text that only looks different is read as the address. -/
theorem read_of_respells (hrespells : Respells address input) : read input = .ok address := by
  obtain ⟨front, written, back, hinput, hfront, hback, hwritten⟩ := hrespells
  obtain ⟨digits, hunmarks, hdigits⟩ := exists_unmarks hwritten
  have htrim := Text.Blank.IsTrimOf.of_visible hfront hback (isBlank_eq_false_of_unmarks hunmarks hdigits)
  rw [← hinput] at htrim
  have hplace : HoldsDigits input digits := ⟨written, htrim, hunmarks⟩
  exact read_of_forall₂ (holdsDigits_iff.1 hplace).symm hdigits

end

/-! ## One form for all of them -/

/-- The form in which the address that a text is read as is written. -/
def normalized (input : String) : Except Fault String := text <$> read input

/-- A written form is its own normal form. -/
theorem normalized_text (address : Address) : normalized address.text = .ok address.text := by
  rw [normalized, read_text, ok_map]

/-- Normalizing a second time changes nothing, also where it is refused. -/
theorem normalized_idempotent (input : String) : (normalized input >>= normalized) = normalized input := by
  rw [normalized]
  cases read input with
  | error fault => rfl
  | ok address => rw [ok_map, ok_bind, normalized_text]

/-- The document of an address is read as the address, and so is its text. -/
theorem decode_written (address : Address) :
    (Json.read? (Schema.address.write address).render).map (Json.decode Schema.address) =
      some (.ok address) := by
  have hreadable : (Schema.address.write address).IsReadable 128 :=
    Schema.address.isReadable_write trivial address
  have hread : Json.read? (Schema.address.write address).render = some (Schema.address.write address) := by
    have hends : Json.EndsNumber [] := nofun
    have hbare := Json.read?_render_append hreadable hends rfl
    rwa [String.ofList_nil, String.append_empty] at hbare
  rw [hread]
  exact congrArg some (Schema.readsBack_address [] address)

/-- Whether two texts are read as one address is seen from their digits, and from the texts that are written
for them. -/
theorem tfae_of_read {input input' : String} {digits digits' : List Char} {address address' : Address}
    (hholds : HoldsDigits input digits) (hholds' : HoldsDigits input' digits')
    (hread : read input = .ok address) (hread' : read input' = .ok address') :
    [address = address', digits.map Char.toLower = digits'.map Char.toLower, address.text = address'.text,
      (Schema.address.write address).render = (Schema.address.write address').render].TFAE := by
  rw [map_toLower_eq (forall₂_of_read hholds hread), map_toLower_eq (forall₂_of_read hholds' hread')]
  tfae_have 1 → 2 := fun hsame ↦ congrArg Address.digits hsame
  tfae_have 2 → 3 := fun hsame ↦ congrArg text (digits_injective hsame)
  tfae_have 3 → 4 := fun hsame ↦ by
    rw [text_injective hsame]
  tfae_have 4 → 1 := fun hsame ↦ by
    have hwritten := decode_written address
    rw [hsame, decode_written] at hwritten
    exact (Except.ok.inj (Option.some.inj hwritten)).symm
  tfae_finish

/-- The texts that are read as an address are those that differ from its written form in looks only, and the
document of the address is read as it as well. Two texts that are read stand for one address exactly if their
digits agree up to case, and then everything that is written for them is the same. Different addresses are
written differently, and a normalized text is left as it is. -/
theorem written_form_is_canonical :
    (∀ address input, read input = .ok address ↔ Respells address input) ∧
      (∀ address, read address.text = .ok address ∧
        Json.decode Schema.address (Schema.address.write address) = .ok address ∧
        (Json.read? (Schema.address.write address).render).map (Json.decode Schema.address) =
          some (.ok address)) ∧
      (∀ input input' digits digits' address address', HoldsDigits input digits →
        HoldsDigits input' digits' → read input = .ok address → read input' = .ok address' →
          [address = address', digits.map Char.toLower = digits'.map Char.toLower,
            address.text = address'.text,
            (Schema.address.write address).render = (Schema.address.write address').render].TFAE) ∧
      Function.Injective text ∧
      ∀ input, (normalized input >>= normalized) = normalized input := by
  refine ⟨fun _ _ ↦ ⟨respells_of_read, read_of_respells⟩, fun address ↦ ?_,
    fun _ _ _ _ _ _ ↦ tfae_of_read, text_injective, normalized_idempotent⟩
  exact ⟨read_text address, Schema.readsBack_address [] address, decode_written address⟩

/-- An account whose written form has letters of both cases. -/
def mixedAccount : Address :=
  ⟨#v[0x5A, 0xAE, 0xB6, 0x05, 0x3F, 0x3E, 0x94, 0xC9, 0xB9, 0xA0, 0x9F, 0x33, 0x66, 0x94, 0x35, 0xE7, 0xEF,
    0x1B, 0xEA, 0xED]⟩

def loudText : String := " 0X5AAEB6053F3E94C9B9A09F33669435E7EF1BEAED\n"

def plainText : String := "5aaeb6053f3e94c9b9a09f33669435e7ef1beaed"

/-- The account in capitals and in small letters, with digits of both cases in its written form. -/
theorem written_form_is_canonical_mixedAccount :
    ∃ digits digits', HoldsDigits loudText digits ∧ HoldsDigits plainText digits' ∧
      read loudText = .ok mixedAccount ∧ read plainText = .ok mixedAccount ∧
      digits.map Char.toLower = digits'.map Char.toLower := by
  have hloud : HoldsDigits loudText "5AAEB6053F3E94C9B9A09F33669435E7EF1BEAED".toList :=
    holdsDigits_iff.2 (by decide)
  have hplain : HoldsDigits plainText "5aaeb6053f3e94c9b9a09f33669435e7ef1beaed".toList :=
    holdsDigits_iff.2 (by decide)
  have hreadLoud : read loudText = .ok mixedAccount := read_eq_ok (by decide)
  have hreadPlain : read plainText = .ok mixedAccount := read_eq_ok (by decide)
  have hsame := written_form_is_canonical.2.2.1 _ _ _ _ _ _ hloud hplain hreadLoud hreadPlain
  exact ⟨_, _, hloud, hplain, hreadLoud, hreadPlain, (hsame.out 0 1).1 rfl⟩

end HubRoutes.Address
