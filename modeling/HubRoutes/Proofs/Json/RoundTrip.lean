import HubRoutes.Json.Printer
import HubRoutes.Json.Reader
import HubRoutes.Proofs.Text.Numeral

/-!
# Printed Json is read back

The printer writes one of the many texts of a value: the reader undoes it, and it leaves alone whatever
stands behind the value. Numbers are exact as long as they are whole and fit in sixty-four bits, so the
statement is made for values without other numbers; and the levels of nesting that the reader allows
bound the nesting of the value.

The reader counts its steps. A step is spent for each value and for each item or entry, and each of them
has at least one character of its own in the printed text, so twice the length of the text is enough.
-/

namespace HubRoutes.Json

open Text.Numeral (isDigit decimal digitValue? digitValue?_digitChar)

/-! ## Texts -/

theorem hexQuad?_control {code : Nat} (hcode : code < 0x20) :
    hexQuad? '0' '0' (Nat.digitChar (code / 16)) (Nat.digitChar (code % 16)) = some code := by
  have hhigh : code / 16 < 16 := by omega
  have hlow : code % 16 < 16 := by omega
  have hzero : digitValue? 16 '0' = some 0 := by decide
  have hwhole : code / 16 * 16 + code % 16 = code := by omega
  simp [hexQuad?, Text.Numeral.read?, Text.Numeral.readFrom?, hzero,
    digitValue?_digitChar hhigh, digitValue?_digitChar hlow, hwhole]

/-- Puts a character in front of the text that is read from the rest. -/
def readAfter? (character : Char) (rest : List Char) : Option (List Char × List Char) :=
  (readText? rest).map fun (content, after) ↦ (character :: content, after)

/-- A character with an escape of one letter is read from it. -/
theorem readText?_short {letter character : Char} (hletter : unescape? letter = some character)
    (rest : List Char) : readText? ('\\' :: letter :: rest) = readAfter? character rest := by
  have hcode : letter ≠ 'u' := by
    rintro rfl
    cases hletter
  rw [readText?, hletter, readAfter?]
  · cases readText? rest <;> rfl
  · intro first second third fourth later hsame
    exact absurd hsame hcode

/-- A control character is read from the escape of its number. -/
theorem readText?_control {code : Nat} (hcode : code < 0x20) (rest : List Char) :
    readText? ('\\' :: 'u' :: '0' :: '0' :: controlDigits code ++ rest) =
      readAfter? (Char.ofNat code) rest := by
  have hlow : ¬(0xDC00 ≤ code ∧ code ≤ 0xDFFF) := by omega
  have hhigh : ¬(0xD800 ≤ code ∧ code ≤ 0xDBFF) := by omega
  simp only [controlDigits, List.cons_append, List.nil_append]
  rw [readText?, hexQuad?_control hcode]
  simp only [Option.bind_eq_bind, Option.bind_some, hlow, hhigh, if_false, readAfter?]
  cases readText? rest <;> rfl

/-- A character that needs no escape is read as itself. -/
theorem readText?_plain {character : Char} (hquote : character ≠ '"')
    (hbackslash : character ≠ '\\') (hcontrol : ¬character.toNat < 0x20) (rest : List Char) :
    readText? (character :: rest) = readAfter? character rest := by
  rw [readText?, if_neg hcontrol, readAfter?]
  · cases readText? rest <;> rfl
  · exact hquote
  · intro first second third fourth later hsame
    exact absurd hsame hbackslash
  · intro letter later hsame
    exact absurd hsame hbackslash

/-- The written form of a character is read as that character, whatever follows. -/
theorem readText?_escape (character : Char) (rest : List Char) :
    readText? (escape character ++ rest) = readAfter? character rest := by
  unfold escape
  split_ifs with hquote hbackslash hnewline hreturn htab hback hfeed hcontrol
  · subst hquote
    exact readText?_short rfl rest
  · subst hbackslash
    exact readText?_short rfl rest
  · subst hnewline
    exact readText?_short rfl rest
  · subst hreturn
    exact readText?_short rfl rest
  · subst htab
    exact readText?_short rfl rest
  · subst hback
    exact readText?_short rfl rest
  · subst hfeed
    exact readText?_short rfl rest
  · have hread := readText?_control hcontrol rest
    rw [Char.ofNat_toNat] at hread
    exact hread
  · exact readText?_plain hquote hbackslash hcontrol rest

/-- A text in quotes is read behind its opening quote. -/
theorem readText?_quoted (content rest : List Char) :
    readText? (content.flatMap escape ++ '"' :: rest) = some (content, rest) := by
  induction content with
  | nil => rfl
  | cons character later ih =>
    rw [List.flatMap_cons, List.append_assoc, readText?_escape, readAfter?, ih]
    rfl

/-! ## Numbers -/

/-- A text that does not go on with a number that stands before it. -/
def EndsNumber (rest : List Char) : Prop :=
  ∀ character ∈ rest.head?, isDigit character = false ∧ character ≠ '.' ∧ character ≠ 'e' ∧
    character ≠ 'E'

theorem takeWhile_append_of_endsNumber {digits rest : List Char}
    (hdigits : ∀ digit ∈ digits, isDigit digit = true) (hrest : EndsNumber rest) :
    (digits ++ rest).takeWhile isDigit = digits ∧ (digits ++ rest).dropWhile isDigit = rest :=
  Text.Numeral.takeWhile_append_of_ends hdigits fun character hfirst ↦ (hrest character hfirst).1

theorem readPower_of_endsNumber {rest : List Char} (hrest : EndsNumber rest) :
    Numeral.readPower rest = .ok (none, rest) := by
  cases rest with
  | nil => rfl
  | cons first later =>
    obtain ⟨-, -, hlower, hupper⟩ := hrest first rfl
    simp [Numeral.readPower, hlower, hupper]

/-- A whole number is read up to what ends it. -/
theorem readAfterWhole_of_endsNumber {value : Nat} (hvalue : value < UInt64.size) {rest : List Char}
    (hrest : EndsNumber rest) :
    Numeral.readAfterWhole false (decimal value) rest = .ok (.natural value, rest) := by
  have hinteger : Numeral.integer false (decimal value) = .ok (.natural value) := by
    simp [Numeral.integer, Text.Numeral.read?_decimal, hvalue]
  have hpoint : ∀ later, rest ≠ '.' :: later := by
    rintro later rfl
    exact (hrest '.' rfl).2.1 rfl
  rw [Numeral.readAfterWhole, readPower_of_endsNumber hrest, hinteger]
  · rfl
  · exact hpoint

/-- The decimal text of a number of sixty-four bits is read as that number. -/
theorem read_decimal {value : Nat} (hvalue : value < UInt64.size) {rest : List Char}
    (hrest : EndsNumber rest) :
    Numeral.read (decimal value ++ rest) = .ok (.natural value, rest) := by
  rcases Nat.eq_zero_or_pos value with rfl | hpositive
  · have hread := readAfterWhole_of_endsNumber hvalue hrest
    cases rest with
    | nil => exact hread
    | cons first later =>
      have hfirst := (hrest first rfl).1
      simpa [Numeral.read, decimal, hfirst] using hread
  · have hdigits : ∀ digit ∈ decimal value, isDigit digit = true :=
      fun _ ↦ Text.Numeral.isDigit_of_mem_decimal
    have hzero := Text.Numeral.head?_decimal_ne_zero hpositive
    have hread := readAfterWhole_of_endsNumber hvalue hrest
    cases hdecimal : decimal value with
    | nil => exact absurd hdecimal (Text.Numeral.decimal_ne_nil value)
    | cons first later =>
      rw [hdecimal] at hdigits hzero hread
      have hfirst : isDigit first = true := hdigits first List.mem_cons_self
      have hminus : first ≠ '-' := by
        rintro rfl
        cases hfirst
      -- The match on the first digit is decided by this fact, which has to be in the context.
      have hleading : first ≠ '0' := by simpa using hzero
      obtain ⟨htake, hdrop⟩ := takeWhile_append_of_endsNumber
        (fun digit hdigit ↦ hdigits digit (List.mem_cons_of_mem _ hdigit)) hrest
      simp [Numeral.read, hminus, hfirst, htake, hdrop, hread]

/-! ## Values -/

mutual

/-- Whether the reader finds a printed value again: its numbers are whole and fit in sixty-four bits,
and its nesting stays within a number of levels. -/
def IsReadable (levels : Nat) : Json → Prop
  | .null => True
  | .flag _ => True
  | .number (.natural value) => value < UInt64.size
  | .number (.negative _) => False
  | .number (.real _) => False
  | .text _ => True
  | .list items => 0 < levels ∧ AreReadableItems (levels - 1) items
  | .object entries => 0 < levels ∧ AreReadableEntries (levels - 1) entries
termination_by structural value => value

def AreReadableItems (levels : Nat) : List Json → Prop
  | [] => True
  | item :: rest => item.IsReadable levels ∧ AreReadableItems levels rest
termination_by structural items => items

def AreReadableEntries (levels : Nat) : List (String × Json) → Prop
  | [] => True
  | (_, value) :: rest => value.IsReadable levels ∧ AreReadableEntries levels rest
termination_by structural entries => entries

end

theorem areReadableItems_iff {levels : Nat} {items : List Json} :
    AreReadableItems levels items ↔ ∀ item ∈ items, item.IsReadable levels := by
  induction items with
  | nil => simp [AreReadableItems]
  | cons item rest ih => rw [AreReadableItems, ih, List.forall_mem_cons]

theorem areReadableEntries_iff {levels : Nat} {entries : List (String × Json)} :
    AreReadableEntries levels entries ↔ ∀ entry ∈ entries, entry.2.IsReadable levels := by
  induction entries with
  | nil => simp [AreReadableEntries]
  | cons entry rest ih => rw [AreReadableEntries, ih, List.forall_mem_cons]

theorem skipBlanks_append {blanks : List Char} (hblanks : ∀ blank ∈ blanks, isBlank blank = true)
    (rest : List Char) : skipBlanks (blanks ++ rest) = skipBlanks rest :=
  List.dropWhile_append_of_pos hblanks

theorem isBlank_of_mem_lineStart {level : Nat} {character : Char}
    (hcharacter : character ∈ lineStart level) : isBlank character = true := by
  rw [lineStart, List.mem_cons, List.mem_replicate] at hcharacter
  rcases hcharacter with rfl | ⟨-, rfl⟩
  · decide
  · decide

/-- The start of a line is skipped. -/
theorem skipBlanks_lineStart (level : Nat) (rest : List Char) :
    skipBlanks (lineStart level ++ rest) = skipBlanks rest :=
  skipBlanks_append (fun _ ↦ isBlank_of_mem_lineStart) rest

theorem exists_decimal_eq_cons (value : Nat) :
    ∃ first later, decimal value = first :: later ∧ isDigit first = true := by
  cases hdecimal : decimal value with
  | nil => exact absurd hdecimal (Text.Numeral.decimal_ne_nil value)
  | cons first later =>
    have hfirst : first ∈ decimal value := by
      rw [hdecimal]
      exact List.mem_cons_self
    exact ⟨first, later, rfl, Text.Numeral.isDigit_of_mem_decimal hfirst⟩

theorem ne_of_isDigit {digit other : Char} (hdigit : isDigit digit = true)
    (hother : isDigit other = false) : digit ≠ other := by
  rintro rfl
  rw [hdigit] at hother
  cases hother

theorem isBlank_of_isDigit {digit : Char} (hdigit : isDigit digit = true) : isBlank digit = false := by
  have hblank : digit ≠ ' ' := ne_of_isDigit hdigit (by decide)
  have hnewline : digit ≠ '\n' := ne_of_isDigit hdigit (by decide)
  have htab : digit ≠ '\t' := ne_of_isDigit hdigit (by decide)
  have hreturn : digit ≠ '\r' := ne_of_isDigit hdigit (by decide)
  simp [isBlank, hblank, hnewline, htab, hreturn]

/-- A printed value starts with a character that is no blank and no closing bracket. -/
theorem exists_print_eq_cons {levels : Nat} (level : Nat) {value : Json}
    (hreadable : value.IsReadable levels) :
    ∃ first later, value.print level = first :: later ∧ isBlank first = false ∧ first ≠ ']' := by
  cases value with
  | null => exact ⟨'n', _, rfl, by decide, by decide⟩
  | flag value =>
    cases value with
    | true => exact ⟨'t', _, rfl, by decide, by decide⟩
    | false => exact ⟨'f', _, rfl, by decide, by decide⟩
  | number value =>
    cases value with
    | natural value =>
      obtain ⟨first, later, hdecimal, hdigit⟩ := exists_decimal_eq_cons value
      exact ⟨first, later, hdecimal, isBlank_of_isDigit hdigit, ne_of_isDigit hdigit (by decide)⟩
    | negative magnitude => exact hreadable.elim
    | real value => exact hreadable.elim
  | text content => exact ⟨'"', _, rfl, by decide, by decide⟩
  | list items =>
    cases items with
    | nil => exact ⟨'[', _, rfl, by decide, by decide⟩
    | cons item rest => exact ⟨'[', _, rfl, by decide, by decide⟩
  | object entries =>
    cases entries with
    | nil => exact ⟨'{', _, rfl, by decide, by decide⟩
    | cons entry rest => exact ⟨'{', _, rfl, by decide, by decide⟩

theorem readValue?_lineStart (steps levels level : Nat) (rest : List Char) :
    readValue? steps levels (lineStart level ++ rest) = readValue? steps levels rest := by
  cases steps with
  | zero => rfl
  | succ steps => rw [readValue?, readValue?, skipBlanks_lineStart]

theorem readValue?_blank (steps levels : Nat) (rest : List Char) :
    readValue? steps levels (' ' :: rest) = readValue? steps levels rest := by
  cases steps with
  | zero => rfl
  | succ steps => rfl

theorem readItems?_lineStart (steps levels level : Nat) (rest : List Char) :
    readItems? steps levels (lineStart level ++ rest) = readItems? steps levels rest := by
  cases steps with
  | zero => rfl
  | succ steps => rw [readItems?, readItems?, readValue?_lineStart]

theorem readEntries?_lineStart (steps levels level : Nat) (rest : List Char) :
    readEntries? steps levels (lineStart level ++ rest) = readEntries? steps levels rest := by
  cases steps with
  | zero => rfl
  | succ steps => rw [readEntries?, readEntries?, skipBlanks_lineStart]

theorem readValue?_decimal (steps levels : Nat) {value : Nat} (hvalue : value < UInt64.size)
    {rest : List Char} (hrest : EndsNumber rest) :
    readValue? (steps + 1) levels (decimal value ++ rest) = some (.number (.natural value), rest) := by
  have hread := read_decimal hvalue hrest
  obtain ⟨first, later, hdecimal, hdigit⟩ := exists_decimal_eq_cons value
  rw [hdecimal] at hread ⊢
  have hkept : skipBlanks (first :: later ++ rest) = first :: (later ++ rest) := by
    simp [skipBlanks, isBlank_of_isDigit hdigit]
  rw [readValue?, hkept]
  have hquote : first ≠ '"' := ne_of_isDigit hdigit (by decide)
  have hlist : first ≠ '[' := ne_of_isDigit hdigit (by decide)
  have hobject : first ≠ '{' := ne_of_isDigit hdigit (by decide)
  have hnull : first ≠ 'n' := ne_of_isDigit hdigit (by decide)
  have htrue : first ≠ 't' := ne_of_isDigit hdigit (by decide)
  have hfalse : first ≠ 'f' := ne_of_isDigit hdigit (by decide)
  rw [List.cons_append] at hread
  split
  all_goals simp_all

/-- A printed value is read as the value, with enough steps and whatever follows it. -/
def ReadsBack (levels level : Nat) (value : Json) : Prop :=
  ∀ steps rest, 2 * (value.print level).length ≤ steps → EndsNumber rest →
    readValue? steps levels (value.print level ++ rest) = some (value, rest)

/-- What stands behind an item or an entry does not go on with a number. -/
theorem endsNumber_lineStart (level : Nat) (rest : List Char) :
    EndsNumber (lineStart level ++ rest) := by
  rintro character hcharacter
  obtain rfl : '\n' = character := Option.some.inj hcharacter
  decide

theorem endsNumber_printItems (level outer : Nat) (items : List Json) (rest : List Char) :
    EndsNumber (printItems level items ++ (lineStart outer ++ rest)) := by
  cases items with
  | nil => exact endsNumber_lineStart outer rest
  | cons item later =>
    rintro character hcharacter
    obtain rfl : ',' = character := Option.some.inj hcharacter
    decide

theorem endsNumber_printEntries (level outer : Nat) (entries : List (String × Json))
    (rest : List Char) : EndsNumber (printEntries level entries ++ (lineStart outer ++ rest)) := by
  cases entries with
  | nil => exact endsNumber_lineStart outer rest
  | cons entry later =>
    rintro character hcharacter
    obtain rfl : ',' = character := Option.some.inj hcharacter
    decide

theorem length_lineStart (level : Nat) : (lineStart level).length = 2 * level + 1 := by
  simp [lineStart]

/-- The items of a list are read if each of them is, up to the closing bracket. -/
theorem readItems?_of_readsBack (levels level outer : Nat) (item : Json) (items : List Json)
    (hitems : ∀ value ∈ item :: items, ReadsBack levels level value) (steps : Nat)
    (rest : List Char)
    (hsteps : 2 * ((item.print level).length + (printItems level items).length) < steps) :
    readItems? steps levels (item.print level ++ (printItems level items ++
      (lineStart outer ++ ']' :: rest))) = some (item :: items, rest) := by
  induction items generalizing item steps with
  | nil =>
    cases steps with
    | zero => omega
    | succ steps =>
      have hitem := hitems item List.mem_cons_self steps _ (by omega)
        (endsNumber_printItems level outer [] (']' :: rest))
      rw [readItems?, hitem]
      simp only [Option.bind_eq_bind, Option.bind_some, printItems, List.nil_append,
        skipBlanks_lineStart]
      rfl
  | cons next later ih =>
    cases steps with
    | zero => omega
    | succ steps =>
      have hitem := hitems item List.mem_cons_self steps _ (by omega)
        (endsNumber_printItems level outer (next :: later) (']' :: rest))
      have hlater := ih next (fun value hvalue ↦ hitems value (List.mem_cons_of_mem _ hvalue)) steps
        (by simp only [printItems, List.length_cons, List.length_append] at hsteps; omega)
      have hcomma : ∀ text : List Char, skipBlanks (',' :: text) = ',' :: text := fun _ ↦ rfl
      rw [readItems?, hitem]
      simp only [Option.bind_eq_bind, Option.bind_some, printItems, List.cons_append,
        List.append_assoc, hcomma, readItems?_lineStart, hlater]
      rfl

theorem quote_append (content : String) (rest : List Char) :
    quote content ++ rest = '"' :: (content.toList.flatMap escape ++ '"' :: rest) := by
  simp [quote]

/-- The entries of an object are read if the value of each of them is, up to the closing bracket. -/
theorem readEntries?_of_readsBack (levels level outer : Nat) (name : String) (value : Json)
    (entries : List (String × Json))
    (hentries : ∀ entry ∈ (name, value) :: entries, ReadsBack levels level entry.2) (steps : Nat)
    (rest : List Char)
    (hsteps : 2 * ((value.print level).length + (printEntries level entries).length) < steps) :
    readEntries? steps levels (quote name ++ (':' :: ' ' :: (value.print level ++
      (printEntries level entries ++ (lineStart outer ++ '}' :: rest))))) =
        some ((name, value) :: entries, rest) := by
  have hquote : ∀ text : List Char, skipBlanks ('"' :: text) = '"' :: text := fun _ ↦ rfl
  have hcolon : ∀ text : List Char, skipBlanks (':' :: text) = ':' :: text := fun _ ↦ rfl
  have hfirst : ReadsBack levels level value := hentries (name, value) List.mem_cons_self
  induction entries generalizing name value steps with
  | nil =>
    cases steps with
    | zero => omega
    | succ steps =>
      have hvalue := hfirst steps _ (by omega)
        (endsNumber_printEntries level outer [] ('}' :: rest))
      rw [readEntries?, quote_append, hquote]
      simp only [Option.bind_eq_bind, Option.bind_some, readText?_quoted, hcolon, readValue?_blank,
        String.ofList_toList]
      rw [hvalue]
      simp only [Option.bind_some, printEntries, List.nil_append, skipBlanks_lineStart]
      rfl
  | cons next later ih =>
    obtain ⟨nextName, nextValue⟩ := next
    cases steps with
    | zero => omega
    | succ steps =>
      have hcomma : ∀ text : List Char, skipBlanks (',' :: text) = ',' :: text := fun _ ↦ rfl
      have hvalue := hfirst steps _ (by omega)
        (endsNumber_printEntries level outer ((nextName, nextValue) :: later) ('}' :: rest))
      have hrest := fun entry hentry ↦ hentries entry (List.mem_cons_of_mem _ hentry)
      have hlater := ih nextName nextValue hrest steps
        (by simp only [printEntries, List.length_cons, List.length_append] at hsteps; omega)
        (hrest (nextName, nextValue) List.mem_cons_self)
      rw [readEntries?, quote_append, hquote]
      simp only [Option.bind_eq_bind, Option.bind_some, readText?_quoted, hcolon, readValue?_blank,
        String.ofList_toList]
      rw [hvalue]
      simp only [Option.bind_some, printEntries, List.cons_append, List.append_assoc, hcomma,
        readEntries?_lineStart, hlater]
      rfl

/-- A printed text is read back, whatever its characters are. -/
theorem readsBack_text (levels level : Nat) (content : String) :
    ReadsBack levels level (.text content) := by
  intro steps rest hsteps _
  cases steps with
  | zero => simp [print, quote] at hsteps
  | succ steps =>
    have hquote : ∀ text : List Char, skipBlanks ('"' :: text) = '"' :: text := fun _ ↦ rfl
    rw [print, quote_append, readValue?, hquote]
    simp only [readText?_quoted, Option.map_some, String.ofList_toList]

/-- A printed number that fits in sixty-four bits is read back. -/
theorem readsBack_natural (levels level : Nat) {value : Nat} (hvalue : value < UInt64.size) :
    ReadsBack levels level (.number (.natural value)) := by
  intro steps rest hsteps hrest
  cases steps with
  | zero =>
    have hdigits := List.length_pos_iff.2 (Text.Numeral.decimal_ne_nil value)
    simp only [print, Number.print] at hsteps
    omega
  | succ steps => exact readValue?_decimal steps levels hvalue hrest

theorem readsBack_flag (levels level : Nat) (value : Bool) : ReadsBack levels level (.flag value) := by
  intro steps rest hsteps _
  cases steps with
  | zero => cases value <;> simp [print] at hsteps
  | succ steps => cases value <;> rfl

theorem readsBack_null (levels level : Nat) : ReadsBack levels level .null := by
  intro steps rest hsteps _
  cases steps with
  | zero => simp [print] at hsteps
  | succ steps => rfl

/-- A printed list is read back if its items are. -/
theorem readsBack_list {levels level : Nat} (items : List Json) (hlevels : 0 < levels)
    (hreadable : AreReadableItems (levels - 1) items)
    (hitems : ∀ item ∈ items, ReadsBack (levels - 1) (level + 1) item) :
    ReadsBack levels level (.list items) := by
  intro steps rest hsteps _
  obtain ⟨levels, rfl⟩ := Nat.exists_eq_add_one_of_ne_zero hlevels.ne'
  have hbracket : ∀ text : List Char, skipBlanks ('[' :: text) = '[' :: text := fun _ ↦ rfl
  cases items with
  | nil =>
    cases steps with
    | zero => simp [print] at hsteps
    | succ steps => rfl
  | cons item later =>
    simp only [print_list_cons, List.length_cons, List.length_append, List.length_nil,
      length_lineStart] at hsteps
    cases steps with
    | zero => omega
    | succ steps =>
      have hread := readItems?_of_readsBack levels (level + 1) level item later hitems steps rest
        (by omega)
      obtain ⟨first, tail, hprinted, hblank, hclosing⟩ :=
        exists_print_eq_cons (level + 1) hreadable.1
      -- The first item starts behind the blanks, so the list is not taken for an empty one.
      have hskipped : skipBlanks (item.print (level + 1) ++ (printItems (level + 1) later ++
          (lineStart level ++ ']' :: rest))) = item.print (level + 1) ++
            (printItems (level + 1) later ++ (lineStart level ++ ']' :: rest)) := by
        rw [hprinted]
        simp [skipBlanks, hblank]
      simp only [print_list_cons, List.cons_append, List.append_assoc, List.nil_append]
      rw [readValue?, hbracket]
      simp only [skipBlanks_lineStart, hskipped]
      rw [hprinted] at hread ⊢
      simp only [List.cons_append] at hread ⊢
      split
      · simp_all
      · simp_all

/-- A printed object is read back if its values are. -/
theorem readsBack_object {levels level : Nat} (entries : List (String × Json)) (hlevels : 0 < levels)
    (hentries : ∀ entry ∈ entries, ReadsBack (levels - 1) (level + 1) entry.2) :
    ReadsBack levels level (.object entries) := by
  intro steps rest hsteps _
  obtain ⟨levels, rfl⟩ := Nat.exists_eq_add_one_of_ne_zero hlevels.ne'
  have hbrace : ∀ text : List Char, skipBlanks ('{' :: text) = '{' :: text := fun _ ↦ rfl
  have hquote : ∀ text : List Char, skipBlanks ('"' :: text) = '"' :: text := fun _ ↦ rfl
  cases entries with
  | nil =>
    cases steps with
    | zero => simp [print] at hsteps
    | succ steps => rfl
  | cons entry later =>
    obtain ⟨name, value⟩ := entry
    simp only [print_object_cons, List.length_cons, List.length_append, List.length_nil,
      length_lineStart] at hsteps
    cases steps with
    | zero => omega
    | succ steps =>
      have hread := readEntries?_of_readsBack levels (level + 1) level name value later hentries
        steps rest (by omega)
      simp only [print_object_cons, List.cons_append, List.append_assoc, List.nil_append]
      rw [readValue?, hbrace]
      rw [quote_append] at hread ⊢
      simp only [skipBlanks_lineStart, hquote]
      split
      · simp_all
      · simp_all

mutual

/-- Every readable value is read back from its printed form. -/
theorem readsBack (levels level : Nat) : (value : Json) → value.IsReadable levels →
    ReadsBack levels level value
  | .null, _ => readsBack_null levels level
  | .flag value, _ => readsBack_flag levels level value
  | .number (.natural _), hreadable => readsBack_natural levels level hreadable
  | .number (.negative _), hreadable => hreadable.elim
  | .number (.real _), hreadable => hreadable.elim
  | .text content, _ => readsBack_text levels level content
  | .list items, hreadable =>
    readsBack_list items hreadable.1 hreadable.2
      (readsBack_items (levels - 1) (level + 1) items hreadable.2)
  | .object entries, hreadable =>
    readsBack_object entries hreadable.1
      (readsBack_entries (levels - 1) (level + 1) entries hreadable.2)
termination_by structural value => value

theorem readsBack_items (levels level : Nat) : (items : List Json) → AreReadableItems levels items →
    ∀ item ∈ items, ReadsBack levels level item
  | [], _ => nofun
  | item :: rest, hreadable => by
    intro value hvalue
    rcases List.mem_cons.1 hvalue with hfirst | hlater
    · rw [hfirst]
      exact readsBack levels level item hreadable.1
    · exact readsBack_items levels level rest hreadable.2 value hlater
termination_by structural items => items

theorem readsBack_entries (levels level : Nat) : (entries : List (String × Json)) →
    AreReadableEntries levels entries → ∀ entry ∈ entries, ReadsBack levels level entry.2
  | [], _ => nofun
  | (name, value) :: rest, hreadable => by
    intro entry hentry
    rcases List.mem_cons.1 hentry with hfirst | hlater
    · rw [hfirst]
      exact readsBack levels level value hreadable.1
    · exact readsBack_entries levels level rest hreadable.2 entry hlater
termination_by structural entries => entries

end

/-- Readers and printers agree: a readable value is found in the text that is rendered from it, also with
blanks behind it. -/
theorem read?_render_append {value : Json} (hreadable : value.IsReadable 128) {ending : List Char}
    (hends : EndsNumber ending) (hblank : skipBlanks ending = []) :
    read? (value.render ++ String.ofList ending) = some value := by
  have htext : (value.render ++ String.ofList ending).toList = value.print 0 ++ ending := by
    simp [render]
  have hsteps : 2 * (value.print 0).length ≤
      2 * (value.render ++ String.ofList ending).length + 2 := by
    rw [← String.length_toList, htext, List.length_append]
    omega
  have hread : readValue? (2 * (value.render ++ String.ofList ending).length + 2) 128
      (value.print 0 ++ ending) = some (value, ending) :=
    readsBack 128 0 value hreadable _ _ hsteps hends
  rw [read?, htext, hread]
  simp only [hblank, List.isEmpty_nil, if_true]

/-- A rendered value is read back if its nesting is within the levels of the reader. -/
theorem read?_render {value : Json} (hreadable : value.IsReadable 128) :
    read? (value.render ++ "\n") = some value :=
  read?_render_append hreadable (endsNumber_lineStart 0 []) rfl

end HubRoutes.Json
