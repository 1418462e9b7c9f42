import HubRoutes.CommandLine
import HubRoutes.Proofs.Text.Numeral
import HubRoutes.Settings

/-!
# What a run is asked for

One argument that is the number of a chain asks for that chain, however many zeros stand in front of the number.
That chain takes the place of the one of the settings and leaves the rest of them alone. The settings depend on the
variables with the mark of the program and on no others.
-/

namespace HubRoutes

open Text.Numeral (digitValue? read? readFrom?)

/-! ## The number of a chain as an argument -/

namespace CommandLine

variable {chain : ChainId} {digits : List Char} {text : String}

/-- Arguments that ask for the table of a hub chain: none at all, or the number of the chain, which may have a plus
sign in front. -/
inductive AsksFor : List String → Option ChainId → Prop
  | anything : AsksFor [] none
  | chain {text : String} {digits : List Char} {hub : ChainId}
    (htext : text.toList = digits ∨ text.toList = '+' :: digits)
    (hdigits : read? 10 digits = some hub.toNat) : AsksFor [text] (some hub)

/-- A number is never less than what its first digits say. -/
theorem le_of_readFrom? {value number : Nat} (hread : readFrom? 10 value digits = some number) :
    value ≤ number := by
  induction digits generalizing value with
  | nil => exact Nat.le_of_eq (Option.some.inj hread)
  | cons digit rest ih =>
    rw [readFrom?] at hread
    split at hread
    · have hrest := ih hread
      omega
    · cases hread

/-- As the number grows with every digit, none of its beginnings is too large for a chain. -/
theorem readDigits_eq_ok {value : Nat} (hread : readFrom? 10 value digits = some chain.toNat) :
    readDigits value digits = .ok chain := by
  induction digits generalizing value with
  | nil =>
    obtain rfl : value = chain.toNat := Option.some.inj hread
    rw [readDigits, ChainId.ofNat?_toNat]
  | cons digit rest ih =>
    rw [readFrom?] at hread
    rw [readDigits]
    split at hread
    next unit hunit =>
      rw [Nat.mul_comm] at hread
      have hsmall : 10 * value + unit < UInt64.size := (le_of_readFrom? hread).trans_lt chain.toNat_lt
      rw [hunit]
      dsimp only
      rw [if_pos hsmall]
      exact ih hread
    next => cases hread

/-- A number starts with a digit, so it is neither empty nor does it start with a sign. -/
theorem exists_cons_of_read? {number : Nat} (hread : read? 10 digits = some number) :
    ∃ digit rest, digits = digit :: rest ∧ digit ≠ '+' ∧ digit ≠ '-' ∧ readFrom? 10 0 digits = some number := by
  cases digits with
  | nil => cases hread
  | cons digit rest =>
    have hnoDigit : digitValue? 10 '+' = none ∧ digitValue? 10 '-' = none := by decide
    refine ⟨digit, rest, rfl, ?_, ?_, hread⟩
    · rintro rfl
      simp [read?, readFrom?, hnoDigit.1] at hread
    · rintro rfl
      simp [read?, readFrom?, hnoDigit.2] at hread

/-- A chain is read from the digits of its number, with a plus sign or without. -/
theorem readChain_eq_ok {characters : List Char} (htext : characters = digits ∨ characters = '+' :: digits)
    (hread : read? 10 digits = some chain.toNat) : readChain characters = .ok chain := by
  obtain ⟨digit, rest, rfl, hplus, -, hvalue⟩ := exists_cons_of_read? hread
  obtain rfl | rfl := htext
  · rw [readChain]
    · exact readDigits_eq_ok hvalue
    · nofun
    · rintro ⟨⟩
      exact hplus rfl
    · rintro _ ⟨⟩
      exact hplus rfl
  · rw [readChain]
    · exact readDigits_eq_ok hvalue
    · nofun

theorem ofText_eq_value (hminus : text.toList.head? ≠ some '-') : Argument.ofText text = .value text := by
  rw [Argument.ofText]
  split <;> simp_all

/-- Arguments that ask for a hub chain are read as a request for its table. -/
theorem read_of_asksFor {arguments : List String} {hub : Option ChainId} (hasks : AsksFor arguments hub) :
    read arguments = .ok (.compile hub) := by
  cases hasks with
  | anything => rfl
  | @chain text digits hub htext hdigits =>
    have hminus : text.toList.head? ≠ some '-' := by
      obtain ⟨digit, rest, rfl, -, hminus, -⟩ := exists_cons_of_read? hdigits
      obtain htext | htext := htext
      · simpa [htext] using hminus
      · simp [htext]
    rw [read, readArguments, ofText_eq_value hminus]
    dsimp only
    rw [readArguments, readHub, readChain_eq_ok htext hdigits]
    rfl

end CommandLine

namespace Settings

/-! ## The settings of a run -/

/-- A hub chain that is asked for replaces the one of the settings, and nothing else of them. -/
theorem withHub_eq (settings : Settings) (hub : Option ChainId) :
    settings.withHub hub = { settings with hub := hub.getD settings.hub } := by
  cases hub with
  | none => rfl
  | some chain => rfl

/-! ## The variables that matter -/

/-- An environment without the variable that says how much is logged. -/
def withoutLog (environment : Environment) : Environment :=
  environment.filter fun entry ↦ entry.1 ≠ "RUST_LOG"

theorem valueFor?_of_unmarked {entry : String × String} (hmark : key? entry.1 = none) (setting : String) :
    valueFor? setting entry = none := by
  rw [valueFor?, hmark]
  rfl

/-- Variables without the mark of the program may be left out. -/
theorem lastValue?_filter {kept : String × String → Bool}
    (hunmarked : ∀ entry, kept entry = false → key? entry.1 = none) (setting : String)
    (environment : Environment) :
    lastValue? setting (environment.filter kept) = lastValue? setting environment := by
  rw [lastValue?, lastValue?, ← List.filter_reverse]
  induction environment.reverse with
  | nil => rfl
  | cons entry rest ih =>
    by_cases hkept : kept entry = true
    · rw [List.filter_cons_of_pos hkept, List.findSome?_cons, List.findSome?_cons, ih]
    · rw [List.filter_cons_of_neg hkept, List.findSome?_cons,
        valueFor?_of_unmarked (hunmarked entry (Bool.eq_false_iff.2 hkept)), ih]

/-- The settings do not depend on how much is logged. -/
theorem ofEnvironment_withoutLog (environment : Environment) :
    ofEnvironment (withoutLog environment) = ofEnvironment environment := by
  have hunmarked : ∀ entry : String × String, decide (entry.1 ≠ "RUST_LOG") = false → key? entry.1 = none := by
    intro entry hlog
    have hname : entry.1 = "RUST_LOG" := by simpa using hlog
    rw [hname]
    decide
  simp only [ofEnvironment, readPath, readChain, withoutLog, lastValue?_filter hunmarked]

end Settings

end HubRoutes
