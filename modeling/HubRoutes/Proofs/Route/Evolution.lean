import HubRoutes.Proofs.Route.TableFormat
import HubRoutes.Proofs.Schema.Evolution
import HubRoutes.Route.Format
import Mathlib.Logic.Relation

/-!
# Tables with new and with missing fields

A route table, its routes and its swap routes may have fields that their reader does not know: however many are
added, the document is read to the same table. The pools and the verifier in it are closed, and a field that is
added there makes the document unacceptable. So does the loss of any field of the table, a route or a swap route;
only the verifier may be missing.
-/

namespace HubRoutes.Route

open Json (GainsEntry LosesEntry ChangesField ChangesOneItem)
open Schema (Keeps Ruins keeps_list ruins_list keeps_record_of_gains keeps_record_of_changes ruins_record_of_changes
  ruins_record_of_loses)

/-! ## Fields -/

def bridgeNames : List String :=
  ["fromChain", "toChain", "fromTokenAddress", "toTokenAddress", "fromSpokeAddress", "fromTokenSymbol", "toTokenSymbol",
    "isNative", "l1TokenAddress"]

/-- The fields of a swap route, those of its bridge route among them. -/
def swapNames : List String := bridgeNames ++ ["swapTokenAddress", "swapTokenSymbol", "swapTokenL1TokenAddress"]

/-- The fields that a table has in any case. -/
def tableNames : List String :=
  ["hubPoolChain", "hubPoolAddress", "hubPoolWethAddress", "acrossConfigStoreAddress", "acrossTokenAddress",
    "acceleratingDistributorAddress", "merkleDistributorAddress", "claimAndStakeAddress", "swapAndBridgeAddresses",
    "routes", "swapRoutes", "pools"]

/-! ## Changes of a table -/

/-- A new field is added to a table, to one of its routes or to one of its swap routes. -/
inductive Grows (document document' : Json) : Prop
  | table (hgains : GainsEntry (tableNames ++ ["spokePoolVerifier"]) document document')
  | route (hchange : ChangesField "routes" (ChangesOneItem (GainsEntry bridgeNames)) document document')
  | swapRoute (hchange : ChangesField "swapRoutes" (ChangesOneItem (GainsEntry swapNames)) document document')

/-- A new field is added to one of the pools of a table or to its verifier. -/
inductive GrowsInside (document document' : Json) : Prop
  | pool (hchange : ChangesField "pools" (ChangesOneItem (GainsEntry ["tokenSymbol", "isNative"])) document document')
  | verifier (hchange : ChangesField "spokePoolVerifier" (GainsEntry ["address", "enabledChains"]) document document')

/-- A field is taken away from a table, from one of its routes or from one of its swap routes. -/
inductive Shrinks (document document' : Json) : Prop
  | table (hloses : LosesEntry tableNames document document')
  | route (hchange : ChangesField "routes" (ChangesOneItem (LosesEntry bridgeNames)) document document')
  | swapRoute (hchange : ChangesField "swapRoutes" (ChangesOneItem (LosesEntry swapNames)) document document')

/-- A table that has gained a field is read to the table that it was read to before. -/
theorem keeps_of_grows {document document' : Json} (hgrows : Grows document document') :
    tableSchema.Keeps document document' := by
  cases hgrows with
  | table hgains => exact keeps_record_of_gains hgains
  | route hchange =>
    refine keeps_record_of_changes hchange fun routes routes' hroutes ↦ ?_
    have hkeeps : (Schema.list bridgeSchema).Keeps routes routes' :=
      keeps_list hroutes fun _ _ hgains ↦ keeps_record_of_gains hgains
    simpa [Schema.Fields.Keep] using hkeeps
  | swapRoute hchange =>
    refine keeps_record_of_changes hchange fun routes routes' hroutes ↦ ?_
    have hkeeps : (Schema.list swapSchema).Keeps routes routes' :=
      keeps_list hroutes fun _ _ hgains ↦ Schema.keeps_extension_of_gains hgains
    simpa [Schema.Fields.Keep] using hkeeps

/-- A table with a new field in one of its pools or in its verifier is refused. -/
theorem ruins_growsInside : tableSchema.Ruins GrowsInside := by
  rintro document document' (hchange | hchange)
  · have hruins : (Schema.list Declaration.poolSchema).Ruins
        (ChangesOneItem (GainsEntry ["tokenSymbol", "isNative"])) := ruins_list Schema.ruins_of_gains
    refine ruins_record_of_changes (by decide) (fun pools pools' hpools ↦ ?_) document document' hchange
    simpa using hruins pools pools' hpools
  · have hruins : Declaration.verifierSchema.Ruins (GainsEntry ["address", "enabledChains"]) := Schema.ruins_of_gains
    refine ruins_record_of_changes (by decide) (fun verifier verifier' hverifier ↦ ?_) document document' hchange
    -- The verifier may also be null, but then it is no object and gains nothing.
    have hrefused := hruins verifier verifier' hverifier
    obtain ⟨_, _, _, _, rfl, rfl, -⟩ := hverifier
    simpa [Schema.Fields.accept_omittable_self] using hrefused

/-- A table that has lost a field is refused. -/
theorem ruins_shrinks : tableSchema.Ruins Shrinks := by
  rintro document document' (hloses | hchange | hchange)
  · exact ruins_record_of_loses document document' hloses
  · have hruins : (Schema.list bridgeSchema).Ruins (ChangesOneItem (LosesEntry bridgeNames)) :=
      ruins_list ruins_record_of_loses
    refine ruins_record_of_changes (by decide) (fun routes routes' hroutes ↦ ?_) document document' hchange
    simpa using hruins routes routes' hroutes
  · have hruins : (Schema.list swapSchema).Ruins (ChangesOneItem (LosesEntry swapNames)) :=
      ruins_list Schema.ruins_extension_of_loses
    refine ruins_record_of_changes (by decide) (fun routes routes' hroutes ↦ ?_) document document' hchange
    simpa using hruins routes routes' hroutes

/-- Any number of new fields leaves the table what it is. -/
theorem decode_of_grows {document document' : Json} {table : Table}
    (hread : Json.decode tableSchema document = .ok table) (hgrows : Relation.ReflTransGen Grows document document') :
    Json.decode tableSchema document' = .ok table := by
  induction hgrows with
  | refl => exact hread
  | tail _ hstep ih => exact keeps_of_grows hstep [] table ih

/-- However many new fields are added to an accepted table and to its routes and swap routes, it is read as the same
table. It is refused as soon as one is added to a pool or to the verifier, and as soon as a field of the table, of a
route or of a swap route is taken away. -/
theorem tables_may_grow (document : Json) (table : Table) (hread : Json.decode tableSchema document = .ok table) :
    ∀ grown, Relation.ReflTransGen Grows document grown →
      Json.decode tableSchema grown = .ok table ∧
      (∀ refused, GrowsInside grown refused → ∃ fault, Json.decode tableSchema refused = .error fault) ∧
      ∀ refused, Shrinks grown refused → ∃ fault, Json.decode tableSchema refused = .error fault := by
  intro grown hgrows
  have hgrown := decode_of_grows hread hgrows
  have haccepts : tableSchema.Accepts grown := ⟨[], table, hgrown⟩
  exact ⟨hgrown,
    fun refused hgrowsInside ↦ Schema.exists_fault_of_not_accepts (ruins_growsInside _ _ hgrowsInside haccepts),
    fun refused hshrinks ↦ Schema.exists_fault_of_not_accepts (ruins_shrinks _ _ hshrinks haccepts)⟩

/-- A table with one route, one swap route, one pool and a verifier. -/
def smallTable : Table where
  hub := 1
  hubPool := .replicate 0xa1
  wrappedNative := .replicate 0xa2
  configStore := .replicate 0xa1
  protocolToken := .replicate 0xa3
  acceleratingDistributor := .replicate 0xa1
  merkleDistributor := .replicate 0xa1
  claimAndStake := .replicate 0xa1
  routers := ∅
  bridges := [⟨10, 1, .replicate 0xb1, .replicate 0xa4, .replicate 0xb2, "USDC", "USDC", false, .replicate 0xa4⟩]
  swaps := [⟨⟨10, 1, .replicate 0xb1, .replicate 0xa4, .replicate 0xb2, "USDC", "USDC", false, .replicate 0xa4⟩,
    .replicate 0xb3, "DAI", .replicate 0xa5⟩]
  pools := [⟨"USDC", false⟩]
  verifier := some ⟨.replicate 0xb4, [10]⟩

/-- The document of the table with some entries for its route, its swap route, its pool and its verifier, and with
more entries of its own. -/
def smallDocument (route swap pool verifier more : List (String × Json)) : Json :=
  let address := fun byte ↦ Json.text (Address.text (.replicate byte))
  .object ([("hubPoolChain", .natural 1), ("hubPoolAddress", address 0xa1), ("hubPoolWethAddress", address 0xa2),
    ("acrossConfigStoreAddress", address 0xa1), ("acrossTokenAddress", address 0xa3),
    ("acceleratingDistributorAddress", address 0xa1), ("merkleDistributorAddress", address 0xa1),
    ("claimAndStakeAddress", address 0xa1), ("swapAndBridgeAddresses", .object []), ("routes", .list [.object route]),
    ("swapRoutes", .list [.object swap]), ("pools", .list [.object pool]), ("spokePoolVerifier", .object verifier)] ++
    more)

section

variable {route swap pool verifier more : List (String × Json)}

theorem grows_smallDocument_table : Grows (smallDocument route swap pool verifier [])
    (smallDocument route swap pool verifier [("note", .null)]) :=
  .table ⟨_, [], "note", .null, rfl, rfl, by decide⟩

theorem changesField_smallDocument_swapRoutes {change : Json → Json → Prop} {swap' : List (String × Json)}
    (hchange : change (.object swap) (.object swap')) :
    ChangesField "swapRoutes" (ChangesOneItem change) (smallDocument route swap pool verifier more)
      (smallDocument route swap' pool verifier more) :=
  ⟨[_, _, _, _, _, _, _, _, _, _], [_, _] ++ more, _, _, rfl, rfl, [], [], _, _, rfl, rfl, hchange⟩

theorem changesField_smallDocument_pools {change : Json → Json → Prop} {pool' : List (String × Json)}
    (hchange : change (.object pool) (.object pool')) :
    ChangesField "pools" (ChangesOneItem change) (smallDocument route swap pool verifier more)
      (smallDocument route swap pool' verifier more) :=
  ⟨[_, _, _, _, _, _, _, _, _, _, _], [_] ++ more, _, _, rfl, rfl, [], [], _, _, rfl, rfl, hchange⟩

end

/-- The entries of the route, the swap route, the pool and the verifier. -/
theorem write_smallTable : ∃ route first swap pool verifier,
    tableSchema.write smallTable = smallDocument route (first :: swap) pool verifier [] ∧ first.1 ∈ swapNames :=
  ⟨_, _, _, _, _, rfl, by decide⟩

/-- New fields of a table and of its swap route, one of its pool, and a swap route that lacks a field. -/
theorem tables_may_grow_smallTable : ∃ route first swap pool verifier,
    Json.decode tableSchema (smallDocument route (first :: swap) pool verifier []) = .ok smallTable ∧
      Json.decode tableSchema (smallDocument route (("note", .null) :: first :: swap) pool verifier
        [("note", .null)]) = .ok smallTable ∧
      (∃ fault, Json.decode tableSchema (smallDocument route (("note", .null) :: first :: swap)
        (("note", .null) :: pool) verifier [("note", .null)]) = .error fault) ∧
      ∃ fault, Json.decode tableSchema (smallDocument route swap pool verifier []) = .error fault := by
  obtain ⟨route, first, swap, pool, verifier, hwrite, hfirst⟩ := write_smallTable
  have hread := tableSchema.readsBack isLossless_tableSchema [] smallTable
  rw [hwrite] at hread
  obtain ⟨-, -, hshrinks⟩ := tables_may_grow _ smallTable hread _ .refl
  obtain ⟨hgrown, hinside, -⟩ := tables_may_grow _ smallTable hread _ ((Relation.ReflTransGen.single
    grows_smallDocument_table).tail (.swapRoute (changesField_smallDocument_swapRoutes
      ⟨[], first :: swap, "note", .null, rfl, rfl, by decide⟩)))
  refine ⟨route, first, swap, pool, verifier, hread, hgrown, hinside _ (.pool (changesField_smallDocument_pools
    ⟨[], pool, "note", .null, rfl, rfl, by decide⟩)), hshrinks _ (.swapRoute (changesField_smallDocument_swapRoutes
      ⟨[], swap, first.1, first.2, rfl, rfl, hfirst⟩))⟩

end HubRoutes.Route
