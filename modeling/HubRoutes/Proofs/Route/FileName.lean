import HubRoutes.Proofs.Address.RoundTrip
import HubRoutes.Proofs.FileTree.Paths
import HubRoutes.Route.Output

/-!
# The names of the files of tables

The name of a table's file has the number of the hub chain and the address of the hub pool in it, and both can
be read off the name again. So two tables have one file name exactly if they are tables of one hub pool. The
name of the temporary file has a point in front, which no file name has. Both names are plain and short, whatever
the chain and the address are.
-/

namespace HubRoutes

/-! ## Chains are told by their texts -/

/-- Two chains never have one text. -/
theorem ChainId.text_injective : Function.Injective ChainId.text := by
  intro first second hsame
  have hdigits : Text.Numeral.decimal first.toNat = Text.Numeral.decimal second.toNat :=
    String.ofList_injective hsame
  have hread := Text.Numeral.read?_decimal first.toNat
  rw [hdigits, Text.Numeral.read?_decimal] at hread
  exact UInt64.toNat_inj.1 (Option.some.inj hread).symm

namespace Route

open FileTree (IsPlain)

variable {table first second : Table} {chain : ChainId} {address : Address} {character : Char}

/-! ## The characters of a name -/

/-- The characters of the names of files. -/
def nameAlphabet : List Char := "_.0123456789ABCDEFabcdefjmnoprstux".toList

theorem isDigit_of_mem_chain (hcharacter : character ∈ chain.text.toList) :
    Text.Numeral.isDigit character = true := by
  rw [ChainId.text, Text.Numeral.text, String.toList_ofList] at hcharacter
  exact Text.Numeral.isDigit_of_mem_decimal hcharacter

theorem mem_nameAlphabet_of_isDigit (hdigit : Text.Numeral.isDigit character = true) :
    character ∈ nameAlphabet := by
  have hcode : ∀ code < 58, Text.Numeral.isDigit (Char.ofNat code) = true →
      Char.ofNat code ∈ nameAlphabet := by decide
  have hbound : character.toNat < 58 := by
    simp only [Text.Numeral.isDigit, Bool.and_eq_true, decide_eq_true_eq] at hdigit
    exact Nat.lt_succ_of_le hdigit.2
  simpa using hcode character.toNat hbound (by simpa using hdigit)

theorem mem_nameAlphabet_of_mem_address (hcharacter : character ∈ address.text.toList) :
    character ∈ nameAlphabet := by
  have hall : "0123456789abcdefABCDEFx".toList ⊆ nameAlphabet := by decide
  exact hall (Address.mem_alphabet_of_mem_text hcharacter)

theorem mem_nameAlphabet_of_mem_fileName (hcharacter : character ∈ table.fileName.toList) :
    character ∈ nameAlphabet := by
  have hends : "routes_".toList ⊆ nameAlphabet ∧ "_".toList ⊆ nameAlphabet ∧
      ".json".toList ⊆ nameAlphabet := by decide
  simp only [Table.fileName, String.toList_append, List.mem_append] at hcharacter
  rcases hcharacter with (((hfront | hchain) | hmiddle) | haddress) | hback
  · exact hends.1 hfront
  · exact mem_nameAlphabet_of_isDigit (isDigit_of_mem_chain hchain)
  · exact hends.2.1 hmiddle
  · exact mem_nameAlphabet_of_mem_address haddress
  · exact hends.2.2 hback

theorem mem_nameAlphabet_of_mem_temporaryName (hcharacter : character ∈ table.temporaryName.toList) :
    character ∈ nameAlphabet := by
  have hends : ".".toList ⊆ nameAlphabet ∧ ".tmp".toList ⊆ nameAlphabet := by decide
  simp only [Table.temporaryName, String.toList_append, List.mem_append] at hcharacter
  rcases hcharacter with (hfront | hname) | hback
  · exact hends.1 hfront
  · exact mem_nameAlphabet_of_mem_fileName hname
  · exact hends.2 hback

/-- The name of a table stands for a file in whatever directory it is written behind. -/
theorem isPlain_fileName (table : Table) : IsPlain table.fileName := by
  have hfirst : 'r' ∈ table.fileName.toList := by
    simp [Table.fileName]
  have hslash : '/' ∉ table.fileName.toList :=
    fun hmem ↦ absurd (mem_nameAlphabet_of_mem_fileName hmem) (by decide)
  exact .of_mem hfirst (by decide) hslash

theorem isPlain_temporaryName (table : Table) : IsPlain table.temporaryName := by
  have hsecond : 'r' ∈ table.temporaryName.toList := by
    simp [Table.temporaryName, Table.fileName]
  have hslash : '/' ∉ table.temporaryName.toList :=
    fun hmem ↦ absurd (mem_nameAlphabet_of_mem_temporaryName hmem) (by decide)
  exact .of_mem hsecond (by decide) hslash

/-! ## What a name tells -/

theorem toList_fileName (table : Table) :
    table.fileName.toList = "routes_".toList ++
      (table.hub.text.toList ++ '_' :: (table.hubPool.text.toList ++ ".json".toList)) := by
  simp [Table.fileName]

/-- The mark between the chain and the address stands in neither of them, so a name tells both. -/
theorem fileName_eq_iff :
    first.fileName = second.fileName ↔ first.hub = second.hub ∧ first.hubPool = second.hubPool := by
  have hchain (chain : ChainId) : '_' ∉ chain.text.toList :=
    fun hmem ↦ absurd (isDigit_of_mem_chain hmem) (by decide)
  have haddress (address : Address) : '_' ∉ address.text.toList ++ ".json".toList := by
    rw [List.mem_append, not_or]
    exact ⟨fun hmem ↦ absurd (Address.mem_alphabet_of_mem_text hmem) (by decide), by decide⟩
  constructor
  · intro hsame
    have hlists := String.toList_inj.2 hsame
    rw [toList_fileName, toList_fileName, List.append_cancel_left_eq,
      List.append_cons_inj_of_notMem (hchain _) (haddress _), List.append_cancel_right_eq] at hlists
    obtain ⟨hhub, -, hpool⟩ := hlists
    exact ⟨ChainId.text_injective (String.toList_inj.1 hhub),
      Address.text_injective (String.toList_inj.1 hpool)⟩
  · rintro ⟨hhub, hpool⟩
    rw [Table.fileName, Table.fileName, hhub, hpool]

/-- No table has its file where another one has its temporary file. -/
theorem fileName_ne_temporaryName (first second : Table) : first.fileName ≠ second.temporaryName := by
  intro hsame
  have hhead := congrArg (fun name ↦ name.toList.head?) hsame
  simp [Table.temporaryName, Table.fileName] at hhead

/-- Tables share a temporary file exactly if they share a file. -/
theorem temporaryName_eq_iff :
    first.temporaryName = second.temporaryName ↔ first.fileName = second.fileName := by
  simp only [Table.temporaryName, ← String.toList_inj, String.toList_append,
    List.append_cancel_left_eq, List.append_cancel_right_eq]

/-! ## The size of a name -/

theorem length_chain_le (chain : ChainId) : chain.text.toList.length ≤ 20 := by
  have hbound : chain.toNat < 10 ^ 20 := chain.toNat_lt.trans (by decide)
  rw [ChainId.text, Text.Numeral.text, String.toList_ofList]
  exact (Nat.length_toDigits_le_iff (by decide) (by decide)).2 hbound

theorem length_address (address : Address) : address.text.toList.length = 42 := by
  have hdigits := address.forall₂_checksumDigits.length_eq
  rw [Address.text, String.toList_ofList, List.length_cons, List.length_cons, ← hdigits,
    Address.length_digitValues]

theorem utf8ByteSize_ofList {characters : List Char} (hcharacters : characters ⊆ nameAlphabet) :
    (String.ofList characters).utf8ByteSize = characters.length := by
  have hall : (nameAlphabet.all fun character ↦ character.utf8Size = 1) = true := by decide
  have hone : ∀ character ∈ nameAlphabet, character.utf8Size = 1 := by
    intro character hcharacter
    simpa only [decide_eq_true_eq] using List.all_eq_true.1 hall character hcharacter
  induction characters with
  | nil => rfl
  | cons character rest ih =>
    obtain ⟨hcharacter, hrest⟩ := List.cons_subset.1 hcharacters
    have hsplit : String.ofList (character :: rest) = String.singleton character ++ String.ofList rest := by
      rw [String.singleton_eq_ofList, ← String.ofList_append, List.singleton_append]
    rw [hsplit, String.utf8ByteSize_append, String.utf8ByteSize_singleton, hone character hcharacter,
      ih hrest, List.length_cons, Nat.add_comm]

/-- No name of a table is too long for a file. -/
theorem utf8ByteSize_fileName_le (table : Table) : table.fileName.utf8ByteSize ≤ 75 := by
  have hsize : table.fileName.utf8ByteSize = table.fileName.toList.length := by
    have hcharacters : table.fileName.toList ⊆ nameAlphabet :=
      fun _ hmem ↦ mem_nameAlphabet_of_mem_fileName hmem
    have hlist := utf8ByteSize_ofList hcharacters
    rwa [String.ofList_toList] at hlist
  have hchain := length_chain_le table.hub
  have haddress := length_address table.hubPool
  have hends : "routes_".toList.length = 7 ∧ ".json".toList.length = 5 := by decide
  rw [hsize, toList_fileName]
  simp only [List.length_append, List.length_cons, haddress, hends.1, hends.2]
  omega

theorem utf8ByteSize_temporaryName_le (table : Table) : table.temporaryName.utf8ByteSize ≤ 80 := by
  have hname := utf8ByteSize_fileName_le table
  have hends : ".".utf8ByteSize = 1 ∧ ".tmp".utf8ByteSize = 4 := by decide
  rw [Table.temporaryName, String.utf8ByteSize_append, String.utf8ByteSize_append, hends.1, hends.2]
  omega

end Route

end HubRoutes
