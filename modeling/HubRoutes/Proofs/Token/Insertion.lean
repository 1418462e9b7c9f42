import HubRoutes.Proofs.OrderedMap
import HubRoutes.Token.Registry

/-!
# Runs of insertions

A registry files addresses by symbol and then by chain. Whatever it holds already, a run of insertions makes it
answer as one flat map would in which a later address of a token on a chain takes the place of an earlier one. It
knows a symbol from then on. A registry that is made of insertions alone knows no symbol without an address, and so
it is told by its answers; a registry that is read from a text may know such symbols.
-/

namespace HubRoutes.Token

/-- The address of a token on a chain. -/
structure Deployment where
  symbol : String
  chain : ChainId
  address : Address
deriving DecidableEq

/-- The address of a token on a chain that comes last among deployments. -/
def lastAddress? (deployments : List Deployment) : Source := fun symbol chain ↦
  (deployments.reverse.find? fun deployment ↦
    deployment.symbol = symbol ∧ deployment.chain = chain).map Deployment.address

/-- The registry after insertions one after the other. -/
def Registry.insertAll (registry : Registry) (deployments : List Deployment) : Registry :=
  deployments.foldl (fun registry deployment ↦
    registry.insert deployment.symbol deployment.chain deployment.address) registry

variable {registry first second : Registry} {deployment : Deployment} {deployments : List Deployment}
  {symbol other : String} {chain place : ChainId} {address address' : Address}

/-! ## The last deployment -/

theorem lastAddress?_cons (deployment : Deployment) (deployments : List Deployment) (symbol : String)
    (chain : ChainId) :
    lastAddress? (deployment :: deployments) symbol chain =
      (lastAddress? deployments symbol chain).or
        (if deployment.symbol = symbol ∧ deployment.chain = chain then some deployment.address else none) := by
  simp only [lastAddress?, List.reverse_cons, List.find?_append, Option.map_or]
  by_cases hsame : deployment.symbol = symbol ∧ deployment.chain = chain <;> simp [hsame]

/-- An address comes last if its token is not deployed on its chain behind it. -/
theorem lastAddress?_eq_some_iff :
    lastAddress? deployments symbol chain = some address ↔
      ∃ before after, deployments = before ++ ⟨symbol, chain, address⟩ :: after ∧
        ∀ later ∈ after, ¬(later.symbol = symbol ∧ later.chain = chain) := by
  rw [lastAddress?, Option.map_eq_some_iff]
  simp only [List.find?_eq_some_iff_append, decide_eq_true_eq, Bool.not_eq_true', decide_eq_false_iff_not]
  constructor
  · rintro ⟨last, ⟨⟨rfl, rfl⟩, after, before, hreverse, hlater⟩, rfl⟩
    refine ⟨before.reverse, after.reverse, ?_, by simpa using hlater⟩
    simpa using congrArg List.reverse hreverse
  · rintro ⟨before, after, rfl, hlater⟩
    exact ⟨⟨symbol, chain, address⟩, ⟨⟨rfl, rfl⟩, after.reverse, before.reverse, by simp, by simpa using hlater⟩, rfl⟩

namespace Registry

/-! ## Answers and symbols -/

theorem address?_insertAll (registry : Registry) (deployments : List Deployment) (symbol : String)
    (chain : ChainId) :
    (registry.insertAll deployments).address? symbol chain =
      (lastAddress? deployments symbol chain).or (registry.address? symbol chain) := by
  induction deployments generalizing registry with
  | nil => rfl
  | cons deployment rest ih =>
    have hstep : (registry.insertAll (deployment :: rest)) =
        (registry.insert deployment.symbol deployment.chain deployment.address).insertAll rest := rfl
    rw [hstep, ih, address?_insert, lastAddress?_cons, Option.or_assoc]
    by_cases hsame : deployment.symbol = symbol ∧ deployment.chain = chain
    · rw [if_pos hsame, if_pos ⟨hsame.1.symm, hsame.2.symm⟩, Option.some_or]
    · rw [if_neg hsame, if_neg fun hsame' ↦ hsame ⟨hsame'.1.symm, hsame'.2.symm⟩, Option.none_or]

theorem mem_symbols_insert :
    other ∈ (registry.insert symbol chain address).symbols ↔ other = symbol ∨ other ∈ registry.symbols :=
  OrderedMap.mem_keys_insert

theorem mem_symbols_insertAll :
    symbol ∈ (registry.insertAll deployments).symbols ↔
      symbol ∈ registry.symbols ∨ ∃ deployment ∈ deployments, deployment.symbol = symbol := by
  induction deployments generalizing registry with
  | nil => simp [insertAll]
  | cons deployment rest ih =>
    refine ih.trans ?_
    rw [mem_symbols_insert, List.exists_mem_cons_iff, eq_comm (a := symbol), or_comm (b := symbol ∈ registry.symbols),
      or_assoc]

/-! ## The order of insertions -/

theorem find?_tokens_insert :
    (registry.insert symbol chain address).tokens.find? other =
      if other = symbol then some (((registry.tokens.find? symbol).getD ∅).insert chain address)
      else registry.tokens.find? other :=
  OrderedMap.find?_insert ..

theorem ext_find? (hequal : ∀ symbol, first.tokens.find? symbol = second.tokens.find? symbol) : first = second := by
  obtain ⟨tokens⟩ := first
  obtain ⟨tokens'⟩ := second
  exact congrArg Registry.mk (OrderedMap.ext_find? hequal)

/-- Deployments of two tokens, or of one token on two chains, may be inserted in either order. -/
theorem insert_comm (hother : (symbol, chain) ≠ (other, place)) :
    (registry.insert symbol chain address).insert other place address' =
      (registry.insert other place address').insert symbol chain address := by
  apply ext_find?
  intro asked
  simp only [find?_tokens_insert]
  by_cases hsymbol : symbol = other
  · have hchain : chain ≠ place := fun hchain ↦ hother (by rw [hsymbol, hchain])
    subst hsymbol
    by_cases hasked : asked = symbol
    · simp only [hasked, if_true, Option.getD_some, OrderedMap.insert_comm _ hchain]
    · simp only [hasked, if_false]
  · have hsymbol' : other ≠ symbol := fun hsame ↦ hsymbol hsame.symm
    by_cases hasked : asked = symbol
    · simp only [hasked, hsymbol, hsymbol', if_true, if_false]
    · simp only [hasked, hsymbol', if_false]

/-- Inserting once more what a registry answers leaves the registry as it is. -/
theorem insert_of_address? (hanswer : registry.address? symbol chain = some address) :
    registry.insert symbol chain address = registry := by
  obtain ⟨held, htoken, hheld⟩ := Option.bind_eq_some_iff.1 hanswer
  apply ext_find?
  intro asked
  rw [find?_tokens_insert, htoken, Option.getD_some, OrderedMap.insert_of_find? hheld]
  by_cases hasked : asked = symbol
  · rw [if_pos hasked, hasked, htoken]
  · rw [if_neg hasked]

/-! ## Registries that are made of insertions -/

/-- Every known token is deployed somewhere. -/
def IsDeployed (registry : Registry) : Prop :=
  ∀ symbol ∈ registry.symbols, ∃ chain address, registry.address? symbol chain = some address

theorem isDeployed_empty : empty.IsDeployed := nofun

theorem IsDeployed.insert (hdeployed : registry.IsDeployed) (symbol : String) (chain : ChainId)
    (address : Address) : (registry.insert symbol chain address).IsDeployed := by
  intro asked hasked
  by_cases hsame : asked = symbol
  · exact ⟨chain, address, by rw [address?_insert, if_pos ⟨hsame, rfl⟩]⟩
  · obtain ⟨place, held, hheld⟩ := hdeployed asked ((mem_symbols_insert.1 hasked).resolve_left hsame)
    exact ⟨place, held, by rw [address?_insert, if_neg fun hsame' ↦ hsame hsame'.1, hheld]⟩

theorem IsDeployed.insertAll (hdeployed : registry.IsDeployed) (deployments : List Deployment) :
    (registry.insertAll deployments).IsDeployed := by
  induction deployments generalizing registry with
  | nil => exact hdeployed
  | cons deployment rest ih => exact ih (hdeployed.insert _ _ _)

theorem IsDeployed.find?_eq_none (hdeployed : first.IsDeployed)
    (hequal : ∀ symbol chain, first.address? symbol chain = second.address? symbol chain)
    (hnone : second.tokens.find? symbol = none) : first.tokens.find? symbol = none := by
  rw [Option.eq_none_iff_forall_ne_some]
  intro held hheld
  obtain ⟨chain, address, hanswer⟩ := hdeployed symbol (OrderedMap.mem_keys_iff.2 ⟨held, hheld⟩)
  rw [hequal, address?, hnone] at hanswer
  cases hanswer

/-- Registries all of whose tokens are deployed somewhere are equal if they answer alike. -/
theorem IsDeployed.eq_of_address? (hfirst : first.IsDeployed) (hsecond : second.IsDeployed)
    (hequal : ∀ symbol chain, first.address? symbol chain = second.address? symbol chain) : first = second := by
  apply ext_find?
  intro symbol
  cases hheld : second.tokens.find? symbol with
  | none => exact hfirst.find?_eq_none hequal hheld
  | some held =>
    cases hheld' : first.tokens.find? symbol with
    | none =>
      rw [hsecond.find?_eq_none (fun symbol chain ↦ (hequal symbol chain).symm) hheld'] at hheld
      cases hheld
    | some held' =>
      refine congrArg some (OrderedMap.ext_find? fun chain ↦ ?_)
      simpa [address?, hheld, hheld'] using hequal symbol chain

/-! ## Insertions make a finite map -/

/-- The symbols of a registry are those of which something holds. They are listed in ascending order and each once,
and counted by the size. -/
structure Knows (registry : Registry) (known : String → Prop) : Prop where
  ascending : registry.symbols.Pairwise fun first second ↦ first.toList < second.toList
  distinct : registry.symbols.Nodup
  mem_iff : ∀ symbol, symbol ∈ registry.symbols ↔ known symbol
  size_eq : registry.size = registry.symbols.length
  isEmpty_eq : registry.isEmpty = registry.symbols.isEmpty

theorem knows_of_mem_iff {known : String → Prop} (hmem : ∀ symbol, symbol ∈ registry.symbols ↔ known symbol) :
    registry.Knows known where
  ascending := registry.tokens.pairwise_keys_text
  distinct := registry.tokens.nodup_keys
  mem_iff := hmem
  size_eq := (length_symbols registry).symm
  isEmpty_eq := by rw [isEmpty, symbols, OrderedMap.isEmpty, OrderedMap.keys, List.isEmpty_map]

/-- After any run of insertions a registry answers the last inserted address of a token on a chain, and as before
where none was inserted, and it knows the symbols from before and the inserted ones. Insertions for different tokens
or chains may change places, and one for what is answered already changes nothing. Registries that are made of
insertions are equal exactly if they answer alike. -/
theorem insertions_make_a_finite_map :
    (∀ registry deployments symbol chain, (insertAll registry deployments).address? symbol chain =
      (lastAddress? deployments symbol chain).or (registry.address? symbol chain)) ∧
    (∀ registry deployments, (insertAll registry deployments).Knows fun symbol ↦
      symbol ∈ registry.symbols ∨ ∃ deployment ∈ deployments, deployment.symbol = symbol) ∧
    (∀ registry symbol other chain place address address', (symbol, chain) ≠ (other, place) →
      (insert registry symbol chain address).insert other place address' =
        (insert registry other place address').insert symbol chain address) ∧
    (∀ registry symbol chain address, address? registry symbol chain = some address →
      insert registry symbol chain address = registry) ∧
    (∀ registry symbol chain address, (insert registry symbol chain address).insert symbol chain address =
      insert registry symbol chain address) ∧
    ∀ deployments deployments', insertAll empty deployments = insertAll empty deployments' ↔
      ∀ symbol chain, (insertAll empty deployments).address? symbol chain =
        (insertAll empty deployments').address? symbol chain := by
  refine ⟨address?_insertAll, fun _ _ ↦ knows_of_mem_iff fun _ ↦ mem_symbols_insertAll,
    fun _ _ _ _ _ _ _ ↦ insert_comm, fun _ _ _ _ ↦ insert_of_address?, fun _ _ _ _ ↦ ?_,
    fun deployments deployments' ↦ ⟨?_, ?_⟩⟩
  · exact insert_of_address? (by rw [address?_insert, if_pos ⟨rfl, rfl⟩])
  · intro hequal symbol chain
    rw [hequal]
  · exact (isDeployed_empty.insertAll deployments).eq_of_address? (isDeployed_empty.insertAll deployments')

/-- A registry that knows a token but no chain on which it is deployed. -/
def bareRegistry : Registry := ⟨OrderedMap.empty.insert "USDC" ∅⟩

theorem insertions_make_a_finite_map_bareRegistry :
    (bareRegistry.insertAll [⟨"USDC", 1, .replicate 1⟩, ⟨"DAI", 10, .replicate 2⟩,
      ⟨"USDC", 1, .replicate 3⟩]).address? "USDC" 1 = some (.replicate 3) ∧
    ("USDC", (1 : ChainId)) ≠ ("USDC", 10) ∧
    (bareRegistry.insert "USDC" 1 (.replicate 1)).insert "USDC" 10 (.replicate 2) =
      (bareRegistry.insert "USDC" 10 (.replicate 2)).insert "USDC" 1 (.replicate 1) ∧
    (bareRegistry.insert "USDC" 10 (.replicate 2)).address? "USDC" 10 = some (.replicate 2) ∧
    (bareRegistry.insert "USDC" 10 (.replicate 2)).insert "USDC" 10 (.replicate 2) =
      bareRegistry.insert "USDC" 10 (.replicate 2) := by
  obtain ⟨hanswers, -, hcomm, hagain, -, -⟩ := insertions_make_a_finite_map
  have hother : ("USDC", (1 : ChainId)) ≠ ("USDC", 10) := by decide
  have hheld : (bareRegistry.insert "USDC" 10 (.replicate 2)).address? "USDC" 10 = some (.replicate 2) := by decide
  refine ⟨?_, hother, hcomm _ _ _ _ _ _ _ hother, hheld, hagain _ _ _ _ hheld⟩
  rw [hanswers]
  decide

end Registry

end HubRoutes.Token
