import HubRoutes.Proofs.Number.Rounding
import HubRoutes.Proofs.Program.Request
import Mathlib.Data.List.TakeWhile

/-!
# The hub chain in the environment and on the command line

A run is told its hub chain by a variable or by an argument. The argument is read as the number of a chain, digit by
digit. The text of the variable is first given a type: a number with more than sixty-three bits is no whole number
but a floating-point number, and is rounded to the nearest multiple of 2048 before it becomes a chain.
-/

namespace HubRoutes.Settings

open Number (Binary64 Literal Magnitude)
open Text.Numeral (decimal isDigit)

variable {number : Nat} {hub : ChainId}

/-! ## The type of a number -/

theorem toLower_of_isDigit {character : Char} (hdigit : isDigit character = true) : character.toLower = character := by
  obtain ⟨-, hnine⟩ := Bool.and_eq_true_iff.1 hdigit
  have hcapital : ¬(character.val ≥ 'A'.val ∧ character.val ≤ 'Z'.val) :=
    fun hletter ↦ absurd (UInt32.le_trans hletter.1 (of_decide_eq_true hnine)) (by decide)
  exact dif_neg hcapital

theorem lower_decimal (number : Nat) :
    String.ofList ((decimal number).map Char.toLower) = Text.Numeral.text number := by
  have hlower : ∀ character ∈ decimal number, character.toLower = character :=
    fun _ hmember ↦ toLower_of_isDigit (Text.Numeral.isDigit_of_mem_decimal hmember)
  rw [Text.Numeral.text, List.map_congr_left hlower, List.map_id']

theorem text_ne {word : String} (hword : ∃ character ∈ word.toList, isDigit character = false) :
    Text.Numeral.text number ≠ word := by
  rintro rfl
  obtain ⟨character, hmember, hother⟩ := hword
  rw [Text.Numeral.text, String.toList_ofList] at hmember
  rw [Text.Numeral.isDigit_of_mem_decimal hmember] at hother
  cases hother

theorem splitSign_decimal (number : Nat) : Literal.splitSign (decimal number) = (false, decimal number) := by
  obtain ⟨digit, rest, hdigits, hplus, hminus, -⟩ :=
    CommandLine.exists_cons_of_read? (Text.Numeral.read?_decimal number)
  rw [hdigits, Literal.splitSign]
  · rintro _ ⟨⟩
    exact hminus rfl
  · rintro _ ⟨⟩
    exact hplus rfl

theorem literal_read?_decimal (number : Nat) : Literal.read? (decimal number) = some ⟨false, number, 0⟩ := by
  have hdigits : ∀ character ∈ decimal number, isDigit character = true := fun _ ↦ Text.Numeral.isDigit_of_mem_decimal
  rw [Literal.read?, splitSign_decimal]
  dsimp only
  rw [Literal.readUnsigned?, List.takeWhile_eq_self_iff.2 hdigits, List.dropWhile_eq_nil_iff.2 hdigits]
  simp [Text.Numeral.read?_decimal, Literal.readPower?]

theorem readInteger?_decimal (number : Nat) :
    Value.readInteger? (decimal number) = if number < 2 ^ 63 then some (number : Int) else none := by
  rw [Value.readInteger?, splitSign_decimal]
  dsimp only
  rw [Text.Numeral.read?_decimal]
  rfl

theorem readReal?_decimal (number : Nat) :
    Value.readReal? (decimal number) = some (Literal.toBinary64 ⟨false, number, 0⟩) := by
  rw [Value.readReal?, splitSign_decimal]
  dsimp only
  rw [lower_decimal, if_neg, if_neg, literal_read?_decimal, Option.map_some]
  · exact text_ne ⟨'n', by decide, by decide⟩
  · exact not_or.2 ⟨text_ne ⟨'i', by decide, by decide⟩, text_ne ⟨'i', by decide, by decide⟩⟩

/-- A number is a whole number to a variable if it has at most sixty-three bits. -/
theorem read_text (number : Nat) :
    Value.read (Text.Numeral.text number) =
      if number < 2 ^ 63 then .integer number else .real (Literal.toBinary64 ⟨false, number, 0⟩) := by
  rw [Value.read, Text.Numeral.text, String.toList_ofList, lower_decimal, if_neg, if_neg, readInteger?_decimal,
    readReal?_decimal]
  · by_cases hsmall : number < 2 ^ 63
    · rw [if_pos hsmall, if_pos hsmall]
    · rw [if_neg hsmall, if_neg hsmall]
  · exact text_ne ⟨'f', by decide, by decide⟩
  · exact text_ne ⟨'t', by decide, by decide⟩

/-! ## The chain of a number -/

theorem toBinary64_whole (hpositive : number ≠ 0) (hsmall : number < 10 ^ 20) :
    Literal.toBinary64 ⟨false, number, 0⟩ = .ofMagnitude false (Magnitude.ofQuotient? number 1) := by
  have hlength : (Nat.toDigits 10 number).length ≤ 20 :=
    (Nat.length_toDigits_le_iff (by decide) (by decide)).2 hsmall
  have hone : Number.tenTo 0 = 1 ∧ Number.tenTo (-0) = 1 := by decide
  rw [Literal.toBinary64]
  dsimp only
  rw [if_neg (by omega), if_neg (by omega), hone.1, hone.2, Nat.mul_one]

/-- A number that is too large for a chain counts as the greatest one. -/
theorem toNat_getD_ofNat? (number : Nat) :
    ((ChainId.ofNat? number).getD Value.greatestChain).toNat = min number (2 ^ 64 - 1) := by
  have hsize : UInt64.size = 2 ^ 64 := rfl
  by_cases hbounded : number < UInt64.size
  · rw [ChainId.ofNat?, dif_pos hbounded, Nat.min_eq_left (by omega)]
    rfl
  · rw [ChainId.ofNat?, dif_neg hbounded, Nat.min_eq_right (by omega)]
    rfl

/-- A chain's number with more than sixty-three bits has eleven bits more than a mantissa. -/
theorem exists_chain_of_large (hlarge : 2 ^ 63 ≤ hub.toNat) :
    ∃ heard nearest, (Value.read hub.text).chain = .ok heard ∧ Magnitude.IsNearest hub.toNat 2048 nearest ∧
      heard.toNat = min (2048 * nearest) (2 ^ 64 - 1) := by
  have hbound : hub.toNat < 2 ^ 64 := hub.toNat_lt
  have hpositive : hub.toNat ≠ 0 := by omega
  have hbits : hub.toNat.log2 = 52 + 11 := (Nat.log2_eq_iff hpositive).2 ⟨hlarge, hbound⟩
  obtain ⟨magnitude, nearest, hmagnitude, hnearest, hvalue⟩ :=
    Magnitude.exists_ofQuotient?_one hpositive hbits (by decide)
  have hchain : (Value.read hub.text).chain =
      .ok ((ChainId.ofNat? magnitude.roundToNat).getD Value.greatestChain) := by
    rw [ChainId.text, read_text, if_neg (by omega), toBinary64_whole hpositive (by omega), hmagnitude]
    rfl
  refine ⟨_, nearest, hchain, hnearest, ?_⟩
  rw [toNat_getD_ofNat?, hvalue]
  rfl

theorem chain_of_small (hsmall : hub.toNat < 2 ^ 63) : (Value.read hub.text).chain = .ok hub := by
  rw [ChainId.text, read_text, if_pos hsmall, Value.chain, if_neg (by omega), Int.toNat_natCast, ChainId.ofNat?_toNat]

/-! ## The hub chain of a run -/

theorem valueFor?_of_key {name own : String} {key : List Char} (hkey : key? name = some key)
    (hsplit : splitKey key = (own.toList, .none)) (setting content : String) :
    valueFor? setting (name, content) = if setting = own then some (Value.read content) else none := by
  rw [valueFor?, hkey, Option.bind_eq_bind, Option.bind_some, hsplit]
  dsimp only
  by_cases hsetting : setting = own
  · rw [hsetting, if_pos rfl, if_pos rfl, Option.pure_def]
  · rw [if_neg fun hsame ↦ hsetting (String.toList_inj.1 hsame).symm, if_neg hsetting]

/-- The variable of the hub chain says nothing about other settings. -/
theorem lastValue?_hub (setting content : String) :
    lastValue? setting [("ROUTEGEN_HUB_CHAIN_ID", content)] =
      if setting = "hub_chain_id" then some (Value.read content) else none := by
  have hkey : (key? "ROUTEGEN_HUB_CHAIN_ID").map splitKey = some ("hub_chain_id".toList, .none) := by decide
  obtain ⟨key, hkey, hsplit⟩ := Option.map_eq_some_iff.1 hkey
  rw [lastValue?, List.reverse_singleton, List.findSome?_singleton, valueFor?_of_key hkey hsplit]

theorem ofEnvironment_hub {content : String} {chain : ChainId} (hchain : (Value.read content).chain = .ok chain) :
    ofEnvironment [("ROUTEGEN_HUB_CHAIN_ID", content)] = .ok (default.withHub (some chain)) := by
  have hchainRead : readChain [("ROUTEGEN_HUB_CHAIN_ID", content)] "hub_chain_id" default.hub = .ok chain := by
    rw [readChain, lastValue?_hub, if_pos rfl]
    dsimp only
    rw [hchain]
    rfl
  have hpath (setting fallback : String) (hother : setting ≠ "hub_chain_id") :
      readPath [("ROUTEGEN_HUB_CHAIN_ID", content)] setting fallback = .ok fallback := by
    rw [readPath, lastValue?_hub, if_neg hother]
  rw [ofEnvironment, hpath _ _ (by decide), hpath _ _ (by decide), hpath _ _ (by decide), hchainRead]
  rfl

/-- As an argument every number of a chain asks for that chain. As a variable it does if it has at most sixty-three
bits; beyond, it asks for the chain of the nearest multiple of 2048, or for the greatest chain if no chain has that
number. So the two ways agree on the multiples of 2048 and on the greatest chain besides the small numbers, and on no
other number. -/
theorem environment_rounds_large_hub_chains (hub : ChainId) :
    CommandLine.read [hub.text] = .ok (.compile (some hub)) ∧
      (∃ heard, ofEnvironment [("ROUTEGEN_HUB_CHAIN_ID", hub.text)] = .ok (default.withHub (some heard)) ∧
        (hub.toNat < 2 ^ 63 ∧ heard = hub ∨
          2 ^ 63 ≤ hub.toNat ∧ ∃ nearest, Magnitude.IsNearest hub.toNat 2048 nearest ∧
            heard.toNat = min (2048 * nearest) (2 ^ 64 - 1))) ∧
      (ofEnvironment [("ROUTEGEN_HUB_CHAIN_ID", hub.text)] = (ofEnvironment []).map (·.withHub (some hub)) ↔
        hub.toNat < 2 ^ 63 ∨ 2048 ∣ hub.toNat ∨ hub.toNat = 2 ^ 64 - 1) := by
  have hargument : CommandLine.read [hub.text] = .ok (.compile (some hub)) :=
    CommandLine.read_of_asksFor (.chain (.inl String.toList_ofList) (Text.Numeral.read?_decimal hub.toNat))
  have hsame (heard : ChainId) (hheard : (Value.read hub.text).chain = .ok heard) :
      ofEnvironment [("ROUTEGEN_HUB_CHAIN_ID", hub.text)] = (ofEnvironment []).map (·.withHub (some hub)) ↔
        heard.toNat = hub.toNat := by
    have hdefault : (ofEnvironment []).map (·.withHub (some hub)) = .ok (default.withHub (some hub)) := rfl
    rw [ofEnvironment_hub hheard, hdefault, Except.ok.injEq, UInt64.toNat_inj]
    constructor
    · intro hsettings
      exact congrArg Settings.hub hsettings
    · rintro rfl
      rfl
  refine ⟨hargument, ?_⟩
  obtain hsmall | hlarge := Nat.lt_or_ge hub.toNat (2 ^ 63)
  · have hheard := chain_of_small hsmall
    exact ⟨⟨hub, ofEnvironment_hub hheard, .inl ⟨hsmall, rfl⟩⟩,
      iff_of_true ((hsame hub hheard).2 rfl) (.inl hsmall)⟩
  · obtain ⟨heard, nearest, hheard, hnearest, hvalue⟩ := exists_chain_of_large hlarge
    refine ⟨⟨heard, ofEnvironment_hub hheard, .inr ⟨hlarge, nearest, hnearest, hvalue⟩⟩, ?_⟩
    rw [hsame heard hheard, hvalue]
    have hbound : hub.toNat < 2 ^ 64 := hub.toNat_lt
    have hupper := hnearest.upper
    have hlower := hnearest.lower
    omega

/-- The variable does not ask for every chain whose number it has. -/
theorem environment_misses_hub_chain :
    ¬∀ hub : ChainId, ofEnvironment [("ROUTEGEN_HUB_CHAIN_ID", hub.text)] =
      (ofEnvironment []).map (·.withHub (some hub)) := by
  intro hsame
  have hrounded := hsame 9223372036854775809
  revert hrounded
  decide +kernel

end HubRoutes.Settings
