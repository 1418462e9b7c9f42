import HubRoutes.Proofs.Number.Literal
import HubRoutes.Proofs.Settings.HubChain

/-!
# Paths in the environment

The text of a variable is given a type before it becomes a path: a flag, a whole number, a floating-point number or
else a text, whichever it can be first. A path that is taken for one of the former three is written anew in the layout
of its type, so it may come out changed. Nothing else happens to paths: each setting has the path of its own variable,
in whatever order the variables are.
-/

namespace HubRoutes.Settings

open Number (Binary64 Literal)
open Text.Numeral (decimal isDigit)
open Number.Literal (Signs Writes IsNumberCharacter splitSign_eq_iff signs_splitSign)

/-! ## The type of a path -/

def lowered (written : List Char) : String := String.ofList (written.map Char.toLower)

def WritesFlag (written : String) : Prop := lowered written.toList = "true" ∨ lowered written.toList = "false"

/-- A text is a whole number that fits in sixty-four bits with its sign. -/
def WritesInteger (written : String) (value : Int) : Prop :=
  ∃ negative digits magnitude, Signs written.toList negative digits ∧
    Text.Numeral.read? 10 digits = some magnitude ∧ value = (if negative then -(magnitude : Int) else magnitude) ∧
    -2 ^ 63 ≤ value ∧ value < 2 ^ 63

/-- A text is a floating-point number: infinity or no number by their words, or else a decimal literal. -/
inductive WritesReal (written : String) : Binary64 → Prop
  | infinite {negative : Bool} {word : List Char} (hsigns : Signs written.toList negative word)
    (hword : lowered word = "inf" ∨ lowered word = "infinity") : WritesReal written (.infinite negative)
  | notANumber {negative : Bool} {word : List Char} (hsigns : Signs written.toList negative word)
    (hword : lowered word = "nan") : WritesReal written .notANumber
  | literal {literal : Literal} (hwrites : Writes written.toList literal) : WritesReal written literal.toBinary64

/-- The path that is made of a text: of the first type that the text can have, in the layout of that type. -/
inductive HeardAs (written : String) : String → Prop
  | flag (hflag : WritesFlag written) : HeardAs written (lowered written.toList)
  | integer {value : Int} (hflag : ¬WritesFlag written) (hvalue : WritesInteger written value) :
    HeardAs written (String.ofList (Text.Numeral.signedDecimal value))
  | real {value : Binary64} (hflag : ¬WritesFlag written) (hinteger : ∀ value, ¬WritesInteger written value)
    (hvalue : WritesReal written value) : HeardAs written (String.ofList value.positional)
  | verbatim (hflag : ¬WritesFlag written) (hinteger : ∀ value, ¬WritesInteger written value)
    (hreal : ∀ value, ¬WritesReal written value) : HeardAs written written

variable {written heard : String}

theorem readInteger?_eq_some_iff {value : Int} :
    Value.readInteger? written.toList = some value ↔ WritesInteger written value := by
  have hpower : Number.twoTo 63 = 2 ^ 63 := rfl
  constructor
  · intro hread
    simp only [Value.readInteger?, Option.bind_eq_some_iff, hpower] at hread
    obtain ⟨magnitude, hmagnitude, hvalue⟩ := hread
    refine ⟨_, _, magnitude, signs_splitSign written.toList, hmagnitude, ?_⟩
    split_ifs at hvalue ⊢ <;> simp only [Option.some.injEq] at hvalue <;> omega
  · rintro ⟨negative, digits, magnitude, hsigns, hmagnitude, hvalue, hlower, hupper⟩
    rw [Value.readInteger?, splitSign_eq_iff.2 hsigns]
    dsimp only
    rw [hmagnitude, Option.bind_some, hpower]
    cases negative <;> simp only [Bool.false_eq_true, if_true, if_false] at hvalue ⊢
    · rw [if_pos (by omega), hvalue]
    · rw [if_pos (by omega), hvalue]

theorem readInteger?_eq_none (hnone : ∀ value, ¬WritesInteger written value) :
    Value.readInteger? written.toList = none :=
  Option.eq_none_iff_forall_ne_some.2 fun value hread ↦ hnone value (readInteger?_eq_some_iff.1 hread)

/-! ## The characters of numbers -/

theorem isNumberCharacter_toLower {character : Char} (hcharacter : IsNumberCharacter character) :
    IsNumberCharacter character.toLower := by
  obtain hdigit | hmark := hcharacter
  · rw [toLower_of_isDigit hdigit]
    exact .inl hdigit
  · simp only [List.mem_cons, List.not_mem_nil, or_false] at hmark
    obtain rfl | rfl | rfl | rfl | rfl := hmark <;> decide

/-- A word with a letter that numbers do not have is not written by the characters of numbers. -/
theorem lowered_ne {text : List Char} (htext : ∀ character ∈ text, IsNumberCharacter character) {word : String}
    (letter : Char) (hletter : letter ∈ word.toList) (hother : ¬IsNumberCharacter letter) : lowered text ≠ word := by
  rintro rfl
  rw [lowered, String.toList_ofList, List.mem_map] at hletter
  obtain ⟨character, hcharacter, rfl⟩ := hletter
  exact hother (isNumberCharacter_toLower (htext character hcharacter))

theorem WritesInteger.forall_mem {value : Int} (hvalue : WritesInteger written value) :
    ∀ character ∈ written.toList, IsNumberCharacter character := by
  obtain ⟨negative, digits, magnitude, hsigns, hmagnitude, -⟩ := hvalue
  exact hsigns.forall_mem (Literal.forall_mem_of_read? hmagnitude)

theorem readReal?_eq_some_iff {value : Binary64} :
    Value.readReal? written.toList = some value ↔ WritesReal written value := by
  constructor
  · intro hread
    simp only [Value.readReal?] at hread
    split_ifs at hread with hinfinite hnone
    · cases hread
      exact .infinite (signs_splitSign written.toList) hinfinite
    · cases hread
      exact .notANumber (signs_splitSign written.toList) hnone
    · obtain ⟨literal, hliteral, rfl⟩ := Option.map_eq_some_iff.1 hread
      exact .literal (Literal.read?_eq_some_iff.1 hliteral)
  · intro hwrites
    cases hwrites with
    | infinite hsigns hword =>
      rw [Value.readReal?, splitSign_eq_iff.2 hsigns]
      exact if_pos hword
    | @notANumber negative word hsigns hword =>
      have hother : ¬(lowered word = "inf" ∨ lowered word = "infinity") := by rw [hword]; decide
      rw [Value.readReal?, splitSign_eq_iff.2 hsigns]
      exact (if_neg hother).trans (if_pos hword)
    | @literal literal hwrites =>
      have hread := Literal.read?_eq_some_iff.2 hwrites
      obtain ⟨negative, rest, hsigns, hunsigned⟩ := hwrites
      have hletters := hunsigned.forall_mem
      have hinfinite : ¬(lowered rest = "inf" ∨ lowered rest = "infinity") := not_or.2
        ⟨lowered_ne hletters 'i' (by decide) (by decide), lowered_ne hletters 'i' (by decide) (by decide)⟩
      have hnone : lowered rest ≠ "nan" := lowered_ne hletters 'n' (by decide) (by decide)
      rw [Value.readReal?, splitSign_eq_iff.2 hsigns, hread]
      exact (if_neg hinfinite).trans (if_neg hnone)

theorem readReal?_eq_none (hnone : ∀ value, ¬WritesReal written value) : Value.readReal? written.toList = none :=
  Option.eq_none_iff_forall_ne_some.2 fun value hread ↦ hnone value (readReal?_eq_some_iff.1 hread)

/-! ## What a text is heard as -/

theorem read_of_not_writesFlag (hflag : ¬WritesFlag written) :
    Value.read written = match Value.readInteger? written.toList with
      | some value => .integer value
      | none => match Value.readReal? written.toList with
        | some value => .real value
        | none => .text written := by
  obtain ⟨htrue, hfalse⟩ := not_or.1 hflag
  exact (if_neg htrue).trans (if_neg hfalse)

theorem path?_read_of_heardAs (hheard : HeardAs written heard) : (Value.read written).path? = some heard := by
  cases hheard with
  | flag hflag =>
    obtain htrue | hfalse := hflag
    · have hread : Value.read written = .flag true := if_pos htrue
      rw [hread, htrue]
      rfl
    · have hread : Value.read written = .flag false := by
        have htrue : lowered written.toList ≠ "true" := by rw [hfalse]; decide
        exact (if_neg htrue).trans (if_pos hfalse)
      rw [hread, hfalse]
      rfl
  | integer hflag hvalue =>
    rw [read_of_not_writesFlag hflag, readInteger?_eq_some_iff.2 hvalue]
    rfl
  | real hflag hinteger hvalue =>
    rw [read_of_not_writesFlag hflag, readInteger?_eq_none hinteger, readReal?_eq_some_iff.2 hvalue]
    rfl
  | verbatim hflag hinteger hreal =>
    rw [read_of_not_writesFlag hflag, readInteger?_eq_none hinteger, readReal?_eq_none hreal]
    rfl

theorem exists_heardAs (written : String) : ∃ heard, HeardAs written heard := by
  by_cases hflag : WritesFlag written
  · exact ⟨_, .flag hflag⟩
  by_cases hinteger : ∃ value, WritesInteger written value
  · obtain ⟨value, hvalue⟩ := hinteger
    exact ⟨_, .integer hflag hvalue⟩
  by_cases hreal : ∃ value, WritesReal written value
  · obtain ⟨value, hvalue⟩ := hreal
    exact ⟨_, .real hflag (not_exists.1 hinteger) hvalue⟩
  · exact ⟨_, .verbatim hflag (not_exists.1 hinteger) (not_exists.1 hreal)⟩

/-- Every text is heard as exactly one path. -/
theorem existsUnique_heardAs (written : String) : ∃! heard, HeardAs written heard := by
  obtain ⟨heard, hheard⟩ := exists_heardAs written
  refine ⟨heard, hheard, fun heard' hheard' ↦ ?_⟩
  have hpath := path?_read_of_heardAs hheard'
  rw [path?_read_of_heardAs hheard] at hpath
  exact (Option.some.inj hpath).symm

/-! ## Paths that stay and paths that change -/

/-- A text is one of the words that are no paths. -/
def IsWord (written : String) : Prop :=
  lowered written.toList ∈ ["true", "false", "inf", "+inf", "-inf", "infinity", "+infinity", "-infinity", "nan",
    "+nan", "-nan"]

instance : DecidablePred IsWord := fun _ ↦ inferInstanceAs (Decidable (_ ∈ _))

theorem lowered_append (front back : List Char) : lowered (front ++ back) = lowered front ++ lowered back := by
  rw [lowered, List.map_append, String.ofList_append, lowered, lowered]

theorem lowered_of_signs {text : List Char} {negative : Bool} {word : List Char} (hsigns : Signs text negative word) :
    lowered text = lowered word ∨ lowered text = "+" ++ lowered word ∨ lowered text = "-" ++ lowered word := by
  cases hsigns with
  | minus => exact .inr (.inr (lowered_append ['-'] word))
  | plus => exact .inr (.inl (lowered_append ['+'] word))
  | bare => exact .inl rfl

theorem isWord_of_writesFlag (hflag : WritesFlag written) : IsWord written := by
  obtain hword | hword := hflag <;> rw [IsWord, hword] <;> decide

/-- A floating-point number is a word or has no characters but those of numbers. -/
theorem WritesReal.isWord_or_forall_mem {value : Binary64} (hvalue : WritesReal written value) :
    IsWord written ∨ ∀ character ∈ written.toList, IsNumberCharacter character := by
  cases hvalue with
  | infinite hsigns hword =>
    left
    obtain hsign | hsign | hsign := lowered_of_signs hsigns <;> obtain hword | hword := hword <;>
      rw [IsWord, hsign, hword] <;> decide
  | notANumber hsigns hword =>
    left
    obtain hsign | hsign | hsign := lowered_of_signs hsigns <;> rw [IsWord, hsign, hword] <;> decide
  | literal hwrites => exact .inr hwrites.forall_mem

/-- A text that is no word and has a character that no number has is taken as it is. -/
theorem eq_of_heardAs (hword : ¬IsWord written) (hother : ∃ character ∈ written.toList, ¬IsNumberCharacter character)
    (hheard : HeardAs written heard) : heard = written := by
  obtain ⟨character, hcharacter, hother⟩ := hother
  cases hheard with
  | flag hflag => exact absurd (isWord_of_writesFlag hflag) hword
  | integer hflag hvalue => exact absurd (hvalue.forall_mem character hcharacter) hother
  | real hflag hinteger hvalue =>
    exact absurd (hvalue.isWord_or_forall_mem.resolve_left hword character hcharacter) hother
  | verbatim => rfl

/-! ## The characters of written numbers -/

/-- Whether a character may stand in the positional text of a number. -/
def IsPlaceCharacter (character : Char) : Prop :=
  isDigit character = true ∨ character ∈ ['-', '.', 'i', 'n', 'f', 'N', 'a']

theorem forall_mem_decimal (number : Nat) : ∀ character ∈ decimal number, IsPlaceCharacter character :=
  fun _ hmember ↦ .inl (Text.Numeral.isDigit_of_mem_decimal hmember)

theorem forall_mem_signedDecimal (value : Int) :
    ∀ character ∈ Text.Numeral.signedDecimal value, IsPlaceCharacter character := by
  rw [Text.Numeral.signedDecimal]
  split
  · exact List.forall_mem_cons.2 ⟨.inr (by decide), forall_mem_decimal _⟩
  · exact forall_mem_decimal _

theorem forall_mem_zeros (count : Nat) : ∀ character ∈ List.replicate count '0', IsPlaceCharacter character := by
  intro character hmember
  rw [List.eq_of_mem_replicate hmember]
  exact .inl rfl

theorem forall_mem_decimal_positional (number : Number.Decimal) :
    ∀ character ∈ number.positional, IsPlaceCharacter character := by
  have hdigits : ∀ character ∈ number.digitText, IsPlaceCharacter character := forall_mem_decimal _
  have hpoint : IsPlaceCharacter '.' := .inr (by decide)
  rw [Number.Decimal.positional]
  split_ifs
  · exact List.forall_mem_append.2 ⟨hdigits, forall_mem_zeros _⟩
  · exact List.forall_mem_append.2 ⟨fun character hmember ↦ hdigits character (List.mem_of_mem_take hmember),
      List.forall_mem_cons.2 ⟨hpoint, fun character hmember ↦ hdigits character (List.mem_of_mem_drop hmember)⟩⟩
  · exact List.forall_mem_cons.2 ⟨.inl rfl, List.forall_mem_cons.2
      ⟨hpoint, List.forall_mem_append.2 ⟨forall_mem_zeros _, hdigits⟩⟩⟩

theorem forall_mem_positional (value : Binary64) : ∀ character ∈ value.positional, IsPlaceCharacter character := by
  have hsign (negative : Bool) : ∀ character ∈ Binary64.signText negative, IsPlaceCharacter character := by
    cases negative <;> simp [Binary64.signText, IsPlaceCharacter]
  cases value with
  | finite negative magnitude =>
    refine List.forall_mem_append.2 ⟨hsign negative, ?_⟩
    rw [Binary64.magnitudeText]
    split
    · exact List.forall_mem_singleton.2 (.inl rfl)
    · exact forall_mem_decimal_positional _
  | infinite negative =>
    refine List.forall_mem_append.2 ⟨hsign negative, ?_⟩
    simp [IsPlaceCharacter]
  | notANumber => simp [Binary64.positional, IsPlaceCharacter]

/-- A decimal literal with a plus sign or with a power of ten is changed. -/
theorem ne_of_heardAs {literal : Literal} (hliteral : Writes written.toList literal)
    (hmark : ∃ mark ∈ ['+', 'e', 'E'], mark ∈ written.toList) (hheard : HeardAs written heard) : heard ≠ written := by
  obtain ⟨mark, hmark, hmember⟩ := hmark
  -- The layouts of numbers have no such mark, and the literal is heard as a number.
  have hother (characters : List Char) (hplaces : ∀ character ∈ characters, IsPlaceCharacter character) :
      String.ofList characters ≠ written := by
    rintro rfl
    rw [String.toList_ofList] at hmember
    obtain hdigit | hplace := hplaces mark hmember
    · simp only [List.mem_cons, List.not_mem_nil, or_false] at hmark
      obtain rfl | rfl | rfl := hmark <;> cases hdigit
    · simp only [List.mem_cons, List.not_mem_nil, or_false] at hmark
      obtain rfl | rfl | rfl := hmark <;> revert hplace <;> decide
  cases hheard with
  | flag hflag =>
    have hletters := hliteral.forall_mem
    exact absurd hflag <| not_or.2
      ⟨lowered_ne hletters 't' (by decide) (by decide), lowered_ne hletters 'f' (by decide) (by decide)⟩
  | integer hflag hvalue => exact hother _ (forall_mem_signedDecimal _)
  | real hflag hinteger hvalue => exact hother _ (forall_mem_positional _)
  | verbatim hflag hinteger hreal => exact absurd (.literal hliteral) (hreal _)

/-! ## The variables of the paths -/

/-- The variables of the three paths with their texts. -/
def pathVariables (routeSpec tokenRegistry outputDirectory : String) : Environment :=
  [("ROUTEGEN_ROUTE_SPEC", routeSpec), ("ROUTEGEN_TOKEN_REGISTRY", tokenRegistry),
    ("ROUTEGEN_OUTPUT_DIR", outputDirectory)]

/-- The last variable that says something counts, so the only one does. -/
theorem lastValue?_eq_some {environment : Environment} {setting : String} {value : Value}
    (hsome : ∃ entry ∈ environment, valueFor? setting entry = some value)
    (honly : ∀ entry ∈ environment, ∀ other, valueFor? setting entry = some other → other = value) :
    lastValue? setting environment = some value := by
  obtain ⟨entry, hentry, hvalue⟩ := hsome
  have hisSome : (lastValue? setting environment).isSome := by
    rw [lastValue?, List.findSome?_isSome_iff]
    exact ⟨entry, List.mem_reverse.2 hentry, by rw [hvalue]; rfl⟩
  obtain ⟨found, hfound⟩ := Option.isSome_iff_exists.1 hisSome
  obtain ⟨last, hlast, hread⟩ := List.exists_of_findSome?_eq_some hfound
  rw [hfound, honly last (List.mem_reverse.1 hlast) found hread]

section

variable {environment : Environment} {routeSpec tokenRegistry outputDirectory : String}

theorem valueFor?_pathVariables (setting : String) :
    (pathVariables routeSpec tokenRegistry outputDirectory).map (valueFor? setting) =
      [if setting = "route_spec" then some (Value.read routeSpec) else none,
        if setting = "token_registry" then some (Value.read tokenRegistry) else none,
        if setting = "output_dir" then some (Value.read outputDirectory) else none] := by
  have hkey (name own content : String) (hname : (key? name).map splitKey = some (own.toList, .none)) :
      valueFor? setting (name, content) = if setting = own then some (Value.read content) else none := by
    obtain ⟨key, hkey, hsplit⟩ := Option.map_eq_some_iff.1 hname
    exact valueFor?_of_key hkey hsplit setting content
  rw [pathVariables, List.map_cons, List.map_cons, List.map_cons, hkey _ "route_spec" _ (by decide),
    hkey _ "token_registry" _ (by decide), hkey _ "output_dir" _ (by decide), List.map_nil]

variable (hperm : environment.Perm (pathVariables routeSpec tokenRegistry outputDirectory))
include hperm

theorem lastValue?_of_perm {setting : String} {value : Value}
    (hsome : some value ∈ (pathVariables routeSpec tokenRegistry outputDirectory).map (valueFor? setting))
    (honly : ∀ other, some other ∈ (pathVariables routeSpec tokenRegistry outputDirectory).map (valueFor? setting) →
      other = value) : lastValue? setting environment = some value := by
  rw [← (hperm.map (valueFor? setting)).mem_iff, List.mem_map] at hsome
  refine lastValue?_eq_some hsome fun entry hentry other hother ↦ honly other ?_
  rw [← (hperm.map (valueFor? setting)).mem_iff]
  exact List.mem_map.2 ⟨entry, hentry, hother⟩

theorem lastValue?_hub_of_perm : lastValue? "hub_chain_id" environment = none := by
  rw [lastValue?, List.findSome?_eq_none_iff]
  intro entry hentry
  have hvalues := List.mem_map_of_mem (f := valueFor? "hub_chain_id") (hperm.subset (List.mem_reverse.1 hentry))
  simpa [valueFor?_pathVariables] using hvalues

theorem ofEnvironment_of_perm {heardSpec heardRegistry heardDirectory : String} (hspec : HeardAs routeSpec heardSpec)
    (hregistry : HeardAs tokenRegistry heardRegistry) (hdirectory : HeardAs outputDirectory heardDirectory) :
    ofEnvironment environment = .ok ⟨heardSpec, heardRegistry, heardDirectory, default.hub⟩ := by
  have hpath (setting fallback written heard : String)
      (hlast : lastValue? setting environment = some (Value.read written)) (hheard : HeardAs written heard) :
      readPath environment setting fallback = .ok heard := by
    rw [readPath, hlast]
    dsimp only
    rw [path?_read_of_heardAs hheard]
  have hlastSpec : lastValue? "route_spec" environment = some (Value.read routeSpec) :=
    lastValue?_of_perm hperm (by simp [valueFor?_pathVariables]) (by simp [valueFor?_pathVariables])
  have hlastRegistry : lastValue? "token_registry" environment = some (Value.read tokenRegistry) :=
    lastValue?_of_perm hperm (by simp [valueFor?_pathVariables]) (by simp [valueFor?_pathVariables])
  have hlastDirectory : lastValue? "output_dir" environment = some (Value.read outputDirectory) :=
    lastValue?_of_perm hperm (by simp [valueFor?_pathVariables]) (by simp [valueFor?_pathVariables])
  have hchain : readChain environment "hub_chain_id" default.hub = .ok default.hub := by
    rw [readChain, lastValue?_hub_of_perm hperm]
  rw [ofEnvironment, hpath _ _ _ _ hlastSpec hspec, hpath _ _ _ _ hlastRegistry hregistry,
    hpath _ _ _ _ hlastDirectory hdirectory, hchain]
  rfl

end

/-- In whatever order the variables of the three paths are, the settings are had, with the default hub chain, and each
path is what its own text is heard as. Every text is heard as exactly one path. That is the text itself unless the text
is a word or consists of the characters of numbers; a decimal literal with a plus sign or a power of ten is always
changed. -/
theorem environment_retypes_paths (routeSpec tokenRegistry outputDirectory : String) (environment : Environment)
    (hperm : environment.Perm (pathVariables routeSpec tokenRegistry outputDirectory)) :
    (∃ settings, ofEnvironment environment = .ok settings ∧ settings.hub = default.hub ∧
      HeardAs routeSpec settings.routeSpec ∧ HeardAs tokenRegistry settings.tokenRegistry ∧
      HeardAs outputDirectory settings.outputDirectory) ∧
    ∀ written, (∃! heard, HeardAs written heard) ∧ ∀ heard, HeardAs written heard →
      (¬IsWord written → (∃ character ∈ written.toList, ¬IsNumberCharacter character) → heard = written) ∧
      ∀ literal, Writes written.toList literal → (∃ mark ∈ ['+', 'e', 'E'], mark ∈ written.toList) →
        heard ≠ written := by
  obtain ⟨heardSpec, hspec⟩ := exists_heardAs routeSpec
  obtain ⟨heardRegistry, hregistry⟩ := exists_heardAs tokenRegistry
  obtain ⟨heardDirectory, hdirectory⟩ := exists_heardAs outputDirectory
  refine ⟨⟨_, ofEnvironment_of_perm hperm hspec hregistry hdirectory, rfl, hspec, hregistry, hdirectory⟩,
    fun written ↦ ⟨existsUnique_heardAs written, fun heard hheard ↦ ⟨?_, ?_⟩⟩⟩
  · exact fun hword hother ↦ eq_of_heardAs hword hother hheard
  · exact fun literal hliteral hmark ↦ ne_of_heardAs hliteral hmark hheard

/-- The directory of a version loses the zero at its end, in any order of the variables. -/
theorem environment_retypes_paths_versionedDirectory :
    ofEnvironment [("ROUTEGEN_OUTPUT_DIR", "1.10"), ("ROUTEGEN_TOKEN_REGISTRY", "config/tokens.yaml"),
      ("ROUTEGEN_ROUTE_SPEC", "+1e3")] = .ok ⟨"1000", "config/tokens.yaml", "1.1", default.hub⟩ ∧
      "1000" ≠ "+1e3" := by
  obtain ⟨⟨⟨spec, registry, directory, hub⟩, hsettings, hhub, hspec, hregistry, hdirectory⟩, hheard⟩ :=
    environment_retypes_paths "+1e3" "config/tokens.yaml" "1.10" _
      (List.reverse_perm (pathVariables "+1e3" "config/tokens.yaml" "1.10"))
  -- A slash keeps the path as it is; what the two numbers are laid out as is evaluated.
  obtain rfl : registry = "config/tokens.yaml" :=
    ((hheard _).2 _ hregistry).1 (by decide) ⟨'/', by decide, by decide⟩
  have hspecPath : (Value.read "+1e3").path? = some "1000" := by decide +kernel
  have hdirectoryPath : (Value.read "1.10").path? = some "1.1" := by decide +kernel
  obtain rfl : spec = "1000" := Option.some.inj ((path?_read_of_heardAs hspec).symm.trans hspecPath)
  obtain rfl : directory = "1.1" := Option.some.inj ((path?_read_of_heardAs hdirectory).symm.trans hdirectoryPath)
  obtain rfl : hub = default.hub := hhub
  have hliteral : Literal.read? "+1e3".toList = some ⟨false, 1, 3⟩ := by decide
  exact ⟨hsettings, ((hheard _).2 _ hspec).2 _ (Literal.read?_eq_some_iff.1 hliteral) ⟨'+', by decide, by decide⟩⟩

/-- Not every path is taken as it is written. -/
theorem environment_changes_path :
    ¬∀ routeSpec tokenRegistry outputDirectory,
      ofEnvironment (pathVariables routeSpec tokenRegistry outputDirectory) =
        .ok ⟨routeSpec, tokenRegistry, outputDirectory, default.hub⟩ := by
  intro hsame
  have hchanged := hsame "config/routes.yaml" "config/tokens.yaml" "1.10"
  revert hchanged
  decide +kernel

end HubRoutes.Settings
