import HubRoutes.Document.Loading
import HubRoutes.Proofs.Route.Extension
import HubRoutes.Proofs.Schema.Respelling
import HubRoutes.Proofs.Token.Insertion

/-!
# What a text declares and what is loaded of it

The text of a registry has a block for each symbol, and the addresses of the symbol's chains in it. A registry that
is loaded of a text files whole blocks: a later block of a symbol takes the place of an earlier one with all its
addresses, where the insertion of one address after the other would keep those of other chains. So what is loaded
answers nothing that insertion would not answer, and as much as insertion for each symbol that has one block.
-/

namespace HubRoutes.Token

open Schema (Fields Path ReadsDefaulted ReadsEntry)
open Yaml (Tree)
open Yaml.Tree (format)

/-- The addresses that are written under a symbol, by chain and in the order in which they are written. -/
structure Block where
  symbol : String
  addresses : List (ChainId × Address)
deriving DecidableEq

def Block.deployments (block : Block) : List Deployment :=
  block.addresses.map fun (chain, address) ↦ ⟨block.symbol, chain, address⟩

/-- The deployments of blocks in the order in which they are written. -/
def deploymentsOf (blocks : List Block) : List Deployment := blocks.flatMap Block.deployments

/-! ## The blocks of a text -/

/-- An entry has a chain as its key and an address as its value. -/
def WritesAddress (entry : Tree × Tree) (deployed : ChainId × Address) : Prop :=
  format.chainKey entry.1 = .ok deployed.1 ∧
    ∃ written, format.text entry.2 = .ok written ∧ Address.read written = .ok deployed.2

/-- A tree is a mapping of addresses by chain. -/
def WritesAddresses (tree : Tree) (addresses : List (ChainId × Address)) : Prop :=
  ∃ entries, format.entries "a map" tree = .ok entries ∧ List.Forall₂ WritesAddress entries addresses

/-- A tree is a mapping with no field but that of the addresses, which may be missing. -/
def WritesFields (tree : Tree) (addresses : List (ChainId × Address)) : Prop :=
  ∃ fields, format.entries "struct TokenEntry" tree = .ok fields ∧
    (fields = [] ∧ addresses = [] ∨
      ∃ key value, fields = [(key, value)] ∧ format.fieldName key = .ok "addresses" ∧
        WritesAddresses value addresses)

/-- An entry has the symbol of a block as its key and the addresses of the block in its value. -/
def WritesBlock (entry : Tree × Tree) (block : Block) : Prop :=
  format.text entry.1 = .ok block.symbol ∧ WritesFields entry.2 block.addresses

def WritesBlocks (tree : Tree) (blocks : List Block) : Prop :=
  ∃ entries, format.entries "a map" tree = .ok entries ∧ List.Forall₂ WritesBlock entries blocks

/-- A text is a mapping of blocks. -/
def Declares (text : String) (blocks : List Block) : Prop :=
  ∃ tree, Tree.ofText? text.toList = some tree ∧ WritesBlocks tree blocks

variable {place : Path} {tree : Tree} {symbol : String} {chain : ChainId} {address : Address}
  {block : Block} {blocks : List Block} {text : String}

/-! ## What is read of a block -/

theorem read_address_eq_ok_iff :
    Schema.address.read format place tree = .ok address ↔
      ∃ written, format.text tree = .ok written ∧ Address.read written = .ok address := by
  simp only [Schema.read, bind_eq_ok_iff, Schema.locate_eq_ok_iff]
  apply exists_congr
  intro written
  apply and_congr_right
  intro _
  cases Address.read written <;> simp

/-- A map is read as its entries are, if it is known what each entry is read to. -/
theorem read_entries_eq_ok_iff {κ α β : Type} [Ord κ] [Std.TransOrd κ] {readKey : Tree → Except Schema.Cause κ}
    {read : Path → Tree → Except Schema.Fault α} {writes : Tree × Tree → β → Prop} {pairOf : β → κ × α}
    (hentry : ∀ entry pair, ReadsEntry format.step readKey read place entry pair ↔
      ∃ part, writes entry part ∧ pairOf part = pair) (map : OrderedMap κ α) :
    (do
      let entries ← Schema.locate place (format.entries "a map" tree)
      Schema.readEntries format.step readKey read place ∅ entries) = .ok map ↔
      ∃ parts, (∃ entries, format.entries "a map" tree = .ok entries ∧ List.Forall₂ writes entries parts) ∧
        OrderedMap.ofList (parts.map pairOf) = map := by
  simp only [bind_eq_ok_iff, Schema.locate_eq_ok_iff, Schema.readEntries_eq_ok_iff,
    funext fun entry ↦ funext fun pair ↦ propext (hentry entry pair), forall₂_exists_eq_iff]
  constructor
  · rintro ⟨entries, hentries, _, ⟨parts, hparts, rfl⟩, hmap⟩
    exact ⟨parts, ⟨entries, hentries, hparts⟩, hmap⟩
  · rintro ⟨parts, ⟨entries, hentries, hparts⟩, hmap⟩
    exact ⟨entries, hentries, _, ⟨parts, hparts, rfl⟩, hmap⟩

theorem read_addresses_eq_ok_iff {held : Deployments} :
    (Schema.byChain .address).read format place tree = .ok held ↔
      ∃ addresses, WritesAddresses tree addresses ∧ OrderedMap.ofList addresses = held := by
  have hentry (entry : Tree × Tree) (pair : ChainId × Address) :
      ReadsEntry format.step format.chainKey (fun place tree ↦ Schema.address.read format place tree) place entry pair ↔
        ∃ part, WritesAddress entry part ∧ id part = pair := by
    simp only [ReadsEntry, read_address_eq_ok_iff, id_eq, exists_eq_right, WritesAddress]
  rw [Schema.read, read_entries_eq_ok_iff hentry]
  simp only [List.map_id, WritesAddresses]

/-- The fields of a block: that of the addresses. -/
def blockFields : Fields (Deployments × Unit) := .defaulted "addresses" ∅ (.byChain .address) .done

theorem checkField_blockFields_eq_ok_iff :
    blockFields.checkField format "addresses" place tree = .ok () ↔
      ∃ addresses, WritesAddresses tree addresses := by
  have hcheck : blockFields.checkField format "addresses" place tree =
      ((Schema.byChain .address).read format place tree).map fun _ ↦ () := if_pos rfl
  rw [hcheck, Schema.map_unit_eq_ok_iff]
  simp only [read_addresses_eq_ok_iff]
  constructor
  · rintro ⟨_, addresses, haddresses, -⟩
    exact ⟨addresses, haddresses⟩
  · rintro ⟨addresses, haddresses⟩
    exact ⟨_, addresses, haddresses, rfl⟩

/-- All fields of a block have one name, so there is at most one field. -/
theorem nameEntries_blockFields_eq_ok_iff {entries : List (Tree × Tree)} {named : List (String × Path × Tree)} :
    blockFields.nameEntries false place entries = .ok named ↔
      entries = [] ∧ named = [] ∨ ∃ key value, entries = [(key, value)] ∧
        named = [("addresses", format.step key :: place, value)] ∧ format.fieldName key = .ok "addresses" ∧
        ∃ addresses, WritesAddresses value addresses := by
  rw [Fields.nameEntries, Schema.nameFields_eq_ok_iff]
  constructor
  · rintro ⟨⟨items, hitems, hclosed, rfl⟩, -, hdistinct, hchecked⟩
    have hname : ∀ item ∈ items, item.1 = "addresses" := by
      intro item hitem
      by_contra hother
      exact Bool.false_ne_true (hclosed item hitem fun hknown ↦ hother (List.mem_singleton.1 hknown))
    rw [List.filter_eq_self.2 fun item hitem ↦ by simp [hname item hitem, blockFields, Fields.names]]
      at hdistinct hchecked ⊢
    match items, hitems with
    | [], .nil => exact .inl ⟨rfl, rfl⟩
    | [(name, valuePlace, value)], .cons ⟨hfield, hvalue⟩ .nil =>
      obtain rfl : name = "addresses" := hname _ (List.mem_singleton_self _)
      cases hvalue
      exact .inr ⟨_, _, rfl, rfl, hfield, checkField_blockFields_eq_ok_iff.1 (hchecked _ (List.mem_singleton_self _))⟩
    | first :: second :: rest, _ => simp [hname] at hdistinct
  · rintro (⟨rfl, rfl⟩ | ⟨key, value, rfl, rfl, hfield, haddresses⟩)
    · exact ⟨⟨[], .nil, nofun, rfl⟩, nofun, .nil, nofun⟩
    · refine ⟨⟨[("addresses", format.step key :: place, value)], .cons ⟨hfield, rfl⟩ .nil, ?_, ?_⟩, ?_, ?_, ?_⟩
      · simp [blockFields, Fields.names]
      · simp [blockFields, Fields.names]
      · nofun
      · exact List.nodup_singleton _
      · exact List.forall_mem_singleton.2 (checkField_blockFields_eq_ok_iff.2 haddresses)

theorem read_deployments_eq_ok_iff {held : Deployments} :
    deploymentsSchema.read format place tree = .ok held ↔
      ∃ addresses, WritesFields tree addresses ∧ OrderedMap.ofList addresses = held := by
  have hblock : deploymentsSchema.read format place tree = .ok held ↔ ∃ entries named values,
      tree.asEntries "struct TokenEntry" = .ok entries ∧ blockFields.nameEntries false place entries = .ok named ∧
        blockFields.readNamed format place named = .ok values ∧ values.1 = held := Schema.read_record_eq_ok_iff
  have hfield (named : List (String × Path × Tree)) (values : Deployments × Unit) :
      blockFields.readNamed format place named = .ok values ↔
        ReadsDefaulted ∅ (.byChain .address) (named.lookup "addresses") values.1 :=
    Fields.readNamed_defaulted_eq_ok_iff.trans (and_iff_left rfl)
  simp only [hblock, nameEntries_blockFields_eq_ok_iff, hfield]
  constructor
  · rintro ⟨_, _, values, hentries, ⟨rfl, rfl⟩ | ⟨key, value, rfl, rfl, hfield, -⟩, hvalue, rfl⟩
    · obtain ⟨-, hnone⟩ | ⟨_, _, hfound, -⟩ := hvalue
      · exact ⟨[], ⟨[], hentries, .inl ⟨rfl, rfl⟩⟩, hnone.symm⟩
      · cases hfound
    · obtain ⟨hnone, -⟩ | ⟨_, _, hfound, hread⟩ := hvalue
      · cases hnone
      · cases hfound
        obtain ⟨addresses, haddresses, hheld⟩ := read_addresses_eq_ok_iff.1 hread
        exact ⟨addresses, ⟨_, hentries, .inr ⟨key, value, rfl, hfield, haddresses⟩⟩, hheld⟩
  · rintro ⟨addresses, ⟨fields, hfields, ⟨rfl, rfl⟩ | ⟨key, value, rfl, hfield, haddresses⟩⟩, rfl⟩
    · exact ⟨_, _, (∅, ()), hfields, .inl ⟨rfl, rfl⟩, .inl ⟨rfl, rfl⟩, rfl⟩
    · exact ⟨_, _, (_, ()), hfields, .inr ⟨key, value, rfl, rfl, hfield, addresses, haddresses⟩,
        .inr ⟨_, _, rfl, read_addresses_eq_ok_iff.2 ⟨addresses, haddresses, rfl⟩⟩, rfl⟩

theorem decode_registry_eq_ok_iff {tokens : OrderedMap String Deployments} :
    Tree.decode registrySchema tree = .ok tokens ↔ ∃ blocks, WritesBlocks tree blocks ∧
      OrderedMap.ofList (blocks.map fun block ↦ (block.symbol, OrderedMap.ofList block.addresses)) = tokens := by
  have hentry (entry : Tree × Tree) (pair : String × Deployments) :
      ReadsEntry format.step format.text (fun place tree ↦ deploymentsSchema.read format place tree) [] entry pair ↔
        ∃ block, WritesBlock entry block ∧ (block.symbol, OrderedMap.ofList block.addresses) = pair := by
    obtain ⟨symbol, held⟩ := pair
    simp only [ReadsEntry, read_deployments_eq_ok_iff, WritesBlock, Prod.mk.injEq]
    constructor
    · rintro ⟨hsymbol, addresses, haddresses, hheld⟩
      exact ⟨⟨symbol, addresses⟩, ⟨hsymbol, haddresses⟩, rfl, hheld⟩
    · rintro ⟨⟨_, addresses⟩, ⟨hsymbol, haddresses⟩, rfl, hheld⟩
      exact ⟨hsymbol, addresses, haddresses, hheld⟩
  rw [Tree.decode, registrySchema, Schema.read, read_entries_eq_ok_iff hentry]
  rfl

/-- The registry of blocks, in which the last block of a symbol is filed. -/
def ofBlocks (blocks : List Block) : Registry :=
  ⟨OrderedMap.ofList (blocks.map fun block ↦ (block.symbol, OrderedMap.ofList block.addresses))⟩

theorem ofText_eq_ok_iff {registry : Registry} :
    Registry.ofText text = .ok registry ↔ ∃ blocks, Declares text blocks ∧ ofBlocks blocks = registry := by
  obtain ⟨tokens⟩ := registry
  simp only [Registry.ofText, readYaml, Declares, ofBlocks, Registry.mk.injEq]
  cases htree : Tree.ofText? text.toList with
  | none => simp
  | some tree =>
    simp only [Option.some.injEq, exists_eq_left', ← decode_registry_eq_ok_iff]
    cases Tree.decode registrySchema tree <;> simp

/-! ## What blocks answer -/

/-- The block of a symbol that comes last. -/
def lastBlock? (blocks : List Block) (symbol : String) : Option Block :=
  blocks.reverse.find? fun block ↦ block.symbol = symbol

theorem lastBlock?_eq_some_iff :
    lastBlock? blocks symbol = some block ↔
      ∃ front back, blocks = front ++ block :: back ∧ block.symbol = symbol ∧
        ∀ later ∈ back, later.symbol ≠ symbol := by
  simp only [lastBlock?, List.find?_eq_some_iff_append, decide_eq_true_eq, Bool.not_eq_true', decide_eq_false_iff_not]
  constructor
  · rintro ⟨hsymbol, back, front, hreverse, hback⟩
    refine ⟨front.reverse, back.reverse, ?_, hsymbol, by simpa using hback⟩
    simpa using congrArg List.reverse hreverse
  · rintro ⟨front, back, rfl, hsymbol, hback⟩
    exact ⟨hsymbol, back.reverse, front.reverse, by simp, by simpa using hback⟩

theorem lastBlock?_eq_none_iff : lastBlock? blocks symbol = none ↔ ∀ block ∈ blocks, block.symbol ≠ symbol := by
  simp [lastBlock?]

theorem lastAddress?_append (first second : List Deployment) (symbol : String) (chain : ChainId) :
    lastAddress? (first ++ second) symbol chain =
      (lastAddress? second symbol chain).or (lastAddress? first symbol chain) := by
  simp only [lastAddress?, List.reverse_append, List.find?_append, Option.map_or]

theorem lastAddress?_eq_none_iff {deployments : List Deployment} :
    lastAddress? deployments symbol chain = none ↔
      ∀ deployment ∈ deployments, ¬(deployment.symbol = symbol ∧ deployment.chain = chain) := by
  simp [lastAddress?]

theorem lastAddress?_deployments (block : Block) (chain : ChainId) :
    lastAddress? block.deployments block.symbol chain = block.addresses.reverse.lookup chain := by
  have hpairs := lookup_map_eq Prod.fst Prod.snd block.addresses.reverse chain
  rw [List.map_id'' fun _ ↦ rfl] at hpairs
  rw [hpairs, lastAddress?, Block.deployments, ← List.map_reverse, List.find?_map, Option.map_map]
  simp only [Function.comp_def, true_and]

/-- A registry of blocks answers from the last block of a symbol alone. -/
theorem address?_ofBlocks (blocks : List Block) (symbol : String) (chain : ChainId) :
    (ofBlocks blocks).address? symbol chain =
      (lastBlock? blocks symbol).bind fun block ↦ lastAddress? block.deployments symbol chain := by
  have htokens : (ofBlocks blocks).tokens.find? symbol =
      (lastBlock? blocks symbol).map fun block ↦ OrderedMap.ofList block.addresses := by
    rw [ofBlocks, OrderedMap.find?_ofList, ← List.map_reverse, lookup_map_eq, lastBlock?]
  rw [Registry.address?, htokens, Option.bind_map]
  cases hlast : lastBlock? blocks symbol with
  | none => rfl
  | some block =>
    obtain ⟨-, -, -, rfl, -⟩ := lastBlock?_eq_some_iff.1 hlast
    exact (OrderedMap.find?_ofList ..).trans (lastAddress?_deployments block chain).symm

/-! ## What is lost -/

/-- The last block of a symbol has no address on a chain, but another block of it has one. -/
def IsLost (blocks : List Block) (symbol : String) (chain : ChainId) : Prop :=
  ∃ block, lastBlock? blocks symbol = some block ∧ chain ∉ block.addresses.map Prod.fst ∧
    ∃ earlier ∈ blocks, earlier.symbol = symbol ∧ chain ∈ earlier.addresses.map Prod.fst

theorem lastAddress?_deployments_eq_none_iff :
    lastAddress? block.deployments symbol chain = none ↔
      (block.symbol = symbol → chain ∉ block.addresses.map Prod.fst) := by
  rw [lastAddress?_eq_none_iff, Block.deployments, List.forall_mem_map]
  simp only [not_and, List.mem_map, not_exists]
  constructor
  · intro hnone hsymbol entry hentry
    exact hnone entry hentry hsymbol
  · intro hnone entry hentry hsymbol
    exact hnone hsymbol entry hentry

theorem lastAddress?_deploymentsOf_eq_none_iff :
    lastAddress? (deploymentsOf blocks) symbol chain = none ↔
      ∀ block ∈ blocks, block.symbol = symbol → chain ∉ block.addresses.map Prod.fst := by
  rw [lastAddress?_eq_none_iff, deploymentsOf, List.forall_mem_flatMap]
  apply forall₂_congr
  intro block _
  rw [← lastAddress?_eq_none_iff, lastAddress?_deployments_eq_none_iff]

/-- What the last block of a symbol answers is what all blocks answer. -/
theorem lastAddress?_deploymentsOf_of_last (hlast : lastBlock? blocks symbol = some block)
    (hanswer : lastAddress? block.deployments symbol chain = some address) :
    lastAddress? (deploymentsOf blocks) symbol chain = some address := by
  obtain ⟨front, back, rfl, -, hback⟩ := lastBlock?_eq_some_iff.1 hlast
  have hnone : lastAddress? (deploymentsOf back) symbol chain = none :=
    lastAddress?_deploymentsOf_eq_none_iff.2 fun later hlater hsymbol ↦ absurd hsymbol (hback later hlater)
  have hsplit : deploymentsOf (front ++ block :: back) =
      deploymentsOf front ++ (block.deployments ++ deploymentsOf back) := by
    rw [deploymentsOf, List.flatMap_append, List.flatMap_cons, deploymentsOf, deploymentsOf]
  rw [hsplit, lastAddress?_append, lastAddress?_append, hnone, Option.none_or, hanswer, Option.some_or]

/-- What is lost is not answered, and everything else is answered as by all blocks. -/
theorem address?_ofBlocks_of_isLost (hlost : IsLost blocks symbol chain) :
    (ofBlocks blocks).address? symbol chain = none ∧
      ∃ address, lastAddress? (deploymentsOf blocks) symbol chain = some address := by
  obtain ⟨block, hlast, hlacks, earlier, hearlier, hsymbol, hholds⟩ := hlost
  constructor
  · rw [address?_ofBlocks, hlast, Option.bind_some, lastAddress?_deployments_eq_none_iff]
    exact fun _ ↦ hlacks
  · rw [← Option.ne_none_iff_exists']
    exact fun hnone ↦ lastAddress?_deploymentsOf_eq_none_iff.1 hnone earlier hearlier hsymbol hholds

theorem address?_ofBlocks_of_not_isLost (hkept : ¬IsLost blocks symbol chain) :
    (ofBlocks blocks).address? symbol chain = lastAddress? (deploymentsOf blocks) symbol chain := by
  rw [address?_ofBlocks]
  cases hlast : lastBlock? blocks symbol with
  | none =>
    rw [Option.bind_none, eq_comm, lastAddress?_deploymentsOf_eq_none_iff]
    exact fun block hblock hsymbol ↦ absurd hsymbol (lastBlock?_eq_none_iff.1 hlast block hblock)
  | some block =>
    rw [Option.bind_some]
    cases hanswer : lastAddress? block.deployments symbol chain with
    | some address => exact (lastAddress?_deploymentsOf_of_last hlast hanswer).symm
    | none =>
      obtain ⟨-, -, -, hsymbol, -⟩ := lastBlock?_eq_some_iff.1 hlast
      rw [lastAddress?_deployments_eq_none_iff] at hanswer
      rw [eq_comm, lastAddress?_deploymentsOf_eq_none_iff]
      exact fun earlier hearlier hsame hholds ↦
        hkept ⟨block, hlast, hanswer hsymbol, earlier, hearlier, hsame, hholds⟩

/-- Nothing is lost of a symbol that has no two blocks. -/
theorem not_isLost_of_count_le_one (hsingle : (blocks.map Block.symbol).count symbol ≤ 1) :
    ¬IsLost blocks symbol chain := by
  rintro ⟨block, hlast, hlacks, earlier, hearlier, hsymbol, hholds⟩
  obtain ⟨front, back, rfl, hsame, hback⟩ := lastBlock?_eq_some_iff.1 hlast
  rw [List.mem_append, List.mem_cons] at hearlier
  obtain hfront | rfl | hlater := hearlier
  · have hbefore : 0 < (front.map Block.symbol).count symbol :=
      List.count_pos_iff.2 (List.mem_map.2 ⟨earlier, hfront, hsymbol⟩)
    rw [List.map_append, List.count_append, List.map_cons, hsame, List.count_cons_self] at hsingle
    omega
  · exact hlacks hholds
  · exact hback earlier hlater hsymbol

namespace Registry

/-- A text is a registry of its blocks if it has any. What is lost is a token's address on a chain that the last
block of the token lacks and another one has: insertion of all deployments in their order would answer it. In all
else the registry answers as insertion would, and so it answers what is written last for a token on a chain. -/
theorem loading_keeps_the_last_blocks (text : String) :
    (∀ registry, ofText text = .ok registry → ∃ blocks, Declares text blocks) ∧
    ∀ blocks, Declares text blocks → ∃ registry, ofText text = .ok registry ∧
      (∀ symbol chain, IsLost blocks symbol chain → registry.address? symbol chain = none ∧
        ∃ address, (insertAll empty (deploymentsOf blocks)).address? symbol chain = some address) ∧
      (∀ symbol chain, ¬IsLost blocks symbol chain →
        registry.address? symbol chain = (insertAll empty (deploymentsOf blocks)).address? symbol chain ∧
        ∀ before address after, deploymentsOf blocks = before ++ ⟨symbol, chain, address⟩ :: after →
          (∀ later ∈ after, ¬(later.symbol = symbol ∧ later.chain = chain)) →
          registry.address? symbol chain = some address) ∧
      ∀ symbol, (blocks.map Block.symbol).count symbol ≤ 1 → ∀ chain, ¬IsLost blocks symbol chain := by
  have hinserted (deployments : List Deployment) (symbol : String) (chain : ChainId) :
      (insertAll empty deployments).address? symbol chain = lastAddress? deployments symbol chain :=
    (address?_insertAll ..).trans Option.or_none
  refine ⟨fun registry hloaded ↦ ?_, fun blocks hdeclares ↦ ?_⟩
  · obtain ⟨blocks, hdeclares, -⟩ := ofText_eq_ok_iff.1 hloaded
    exact ⟨blocks, hdeclares⟩
  · refine ⟨ofBlocks blocks, ofText_eq_ok_iff.2 ⟨blocks, hdeclares, rfl⟩, fun symbol chain hlost ↦ ?_,
      fun symbol chain hkept ↦ ?_, fun symbol hsingle chain ↦ not_isLost_of_count_le_one hsingle⟩
    · rw [hinserted]
      exact address?_ofBlocks_of_isLost hlost
    · rw [hinserted, address?_ofBlocks_of_not_isLost hkept]
      exact ⟨rfl, fun before address after hwritten hlater ↦
        lastAddress?_eq_some_iff.2 ⟨before, after, hwritten, hlater⟩⟩

/-- A text with two blocks of one symbol, and in another block one chain under two keys. -/
def repeatedBlockText : String := "
USDC:
 addresses:
  1: &old a1a1a1a1a1a1a1a1a1a1a1a1a1a1a1a1a1a1a1a1
  +10: *old
DAI:
 addresses:
  1: *old
  0x1: &new a2a2a2a2a2a2a2a2a2a2a2a2a2a2a2a2a2a2a2a2
USDC:
 addresses:
  1: *new"

def repeatedBlocks : List Block :=
  [⟨"USDC", [(1, .replicate 0xa1), (10, .replicate 0xa1)]⟩, ⟨"DAI", [(1, .replicate 0xa1), (1, .replicate 0xa2)]⟩,
    ⟨"USDC", [(1, .replicate 0xa2)]⟩]

-- The unifier goes through the text character by character.
set_option maxRecDepth 4000 in
theorem declares_repeatedBlocks : Declares repeatedBlockText repeatedBlocks := by
  have htext : repeatedBlockText.toList = _ := String.toList_ofList
  have hblock : ∀ {key field value : Tree} {symbol : String} {addresses : List (ChainId × Address)},
      format.text key = .ok symbol → format.fieldName field = .ok "addresses" → WritesAddresses value addresses →
      WritesBlock (key, .mapping none [(field, value)]) ⟨symbol, addresses⟩ :=
    fun hkey hfield haddresses ↦ ⟨hkey, _, rfl, .inr ⟨_, _, rfl, hfield, haddresses⟩⟩
  refine ⟨_, by rw [htext]; rfl, _, rfl, .cons (hblock rfl rfl ⟨_, rfl, ?_⟩) (.cons (hblock rfl rfl ⟨_, rfl, ?_⟩)
    (.cons (hblock rfl rfl ⟨_, rfl, ?_⟩) .nil))⟩
  · exact .cons ⟨rfl, _, rfl, by decide +kernel⟩ (.cons ⟨by decide +kernel, _, rfl, by decide +kernel⟩ .nil)
  · exact .cons ⟨rfl, _, rfl, by decide +kernel⟩ (.cons ⟨by decide +kernel, _, rfl, by decide +kernel⟩ .nil)
  · exact .cons ⟨rfl, _, rfl, by decide +kernel⟩ .nil

theorem isLost_repeatedBlocks : IsLost repeatedBlocks "USDC" 10 :=
  ⟨⟨"USDC", [(1, .replicate 0xa2)]⟩, rfl, by decide, ⟨"USDC", [(1, .replicate 0xa1), (10, .replicate 0xa1)]⟩,
    List.mem_cons_self, rfl, by decide⟩

theorem loading_keeps_the_last_blocks_repeatedBlocks :
    Declares repeatedBlockText repeatedBlocks ∧ IsLost repeatedBlocks "USDC" 10 ∧
      (repeatedBlocks.map Block.symbol).count "DAI" ≤ 1 ∧ ¬IsLost repeatedBlocks "DAI" 1 ∧
      ∃ registry, ofText repeatedBlockText = .ok registry ∧ (∃ blocks, Declares repeatedBlockText blocks) ∧
        registry.address? "USDC" 10 = none ∧ registry.address? "DAI" 1 = some (.replicate 0xa2) := by
  obtain ⟨hdeclared, hloads⟩ := loading_keeps_the_last_blocks repeatedBlockText
  obtain ⟨registry, hregistry, hlost, hkept, hsingle⟩ := hloads _ declares_repeatedBlocks
  have hcount : (repeatedBlocks.map Block.symbol).count "DAI" ≤ 1 := by decide
  have hlast := (hkept "DAI" 1 (hsingle "DAI" hcount 1)).2
    [⟨"USDC", 1, .replicate 0xa1⟩, ⟨"USDC", 10, .replicate 0xa1⟩, ⟨"DAI", 1, .replicate 0xa1⟩] (.replicate 0xa2)
    [⟨"USDC", 1, .replicate 0xa2⟩] rfl (by decide)
  exact ⟨declares_repeatedBlocks, isLost_repeatedBlocks, hcount, hsingle "DAI" hcount 1, registry, hregistry,
    hdeclared registry hregistry, (hlost _ _ isLost_repeatedBlocks).1, hlast⟩

/-- A registry that is loaded does not always answer as insertion would: the address of an earlier block is
missing. -/
theorem loaded_registry_lacks_earlier_blocks :
    ¬∀ text blocks registry, Declares text blocks → ofText text = .ok registry →
      ∀ symbol chain, registry.address? symbol chain =
        (insertAll empty (deploymentsOf blocks)).address? symbol chain := by
  intro hequal
  have hanswer := hequal _ _ _ declares_repeatedBlocks (ofText_eq_ok_iff.2 ⟨_, declares_repeatedBlocks, rfl⟩) "USDC" 10
  obtain ⟨hnone, -⟩ := address?_ofBlocks_of_isLost isLost_repeatedBlocks
  rw [hnone] at hanswer
  revert hanswer
  decide

end Registry

end HubRoutes.Token
