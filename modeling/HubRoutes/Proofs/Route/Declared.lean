import HubRoutes.Route.Swap

/-!
# The declarations of origins

What an origin declares is told from its destinations alone: destination by destination, each token and each
swap in its position, with the chain of the destination and the symbols that are declared. These lists are
what results are stated about. The expansions walk over the same lists.
-/

namespace HubRoutes

/-! ## Declarations in their order -/

namespace Declaration

/-- The symbols of a declared token on the two chains: one symbol twice, or one of its own on each. -/
def Token.symbols : Token → String × String
  | .same symbol => (symbol, symbol)
  | .pair input output => (input, output)

theorem Token.symbols_eq (token : Token) : token.symbols = (token.input, token.output) := by
  cases token <;> rfl

/-- All that an origin declares of one kind: by destination, then by position. -/
def Origin.inOrder {δ ε : Type} (kind : Destination → List δ) (entryOf : Destination → δ → ε)
    (origin : Origin) : List ε :=
  origin.destinations.flatMap fun destination ↦ (kind destination).map (entryOf destination)

section

variable {δ ε : Type} {kind : Destination → List δ} {entryOf : Destination → δ → ε} {origin : Origin}

/-- Something holds of all that an origin declares if it holds of each declaration of each destination. -/
theorem Origin.forall_mem_inOrder_iff {property : ε → Prop} :
    (∀ entry ∈ origin.inOrder kind entryOf, property entry) ↔ ∀ destination ∈ origin.destinations,
      ∀ declaration ∈ kind destination, property (entryOf destination declaration) := by
  simp only [inOrder, List.forall_mem_flatMap, List.forall_mem_map]

theorem Origin.map_inOrder {φ : Type} (f : ε → φ) : (origin.inOrder kind entryOf).map f =
    origin.inOrder kind fun destination declaration ↦ f (entryOf destination declaration) := by
  simp only [inOrder, List.map_flatMap, List.map_map, Function.comp_def]

end

end Declaration

namespace Route

open Declaration (Origin Destination)

/-- The declared pairs of an origin, each with the chain of its destination. -/
def declaredPairs (origin : Origin) : List BridgePair :=
  origin.inOrder Destination.tokens fun destination token ↦
    ⟨destination.chain, token.symbols.1, token.symbols.2⟩

/-- The declared swaps of an origin, each with the chain of its destination. -/
def declaredSwaps (origin : Origin) : List SwapPair :=
  origin.inOrder Destination.swaps fun destination swap ↦
    ⟨swap.swapInput, destination.chain, swap.bridgeInput, swap.bridgeOutput⟩

/-- The bridge routes of an origin are expanded from its declared pairs. -/
theorem bridgePairs_eq (origin : Origin) : bridgePairs origin = declaredPairs origin := by
  simp only [bridgePairs, declaredPairs, Origin.inOrder, Declaration.Token.symbols_eq]

/-- The swap routes of an origin are expanded from its declared swaps. -/
theorem swapPairs_eq (origin : Origin) : swapPairs origin = declaredSwaps origin := rfl

theorem forall_mem_declaredPairs_iff {origin : Origin} {property : BridgePair → Prop} :
    (∀ pair ∈ declaredPairs origin, property pair) ↔ ∀ destination ∈ origin.destinations,
      ∀ token ∈ destination.tokens,
        property ⟨destination.chain, token.symbols.1, token.symbols.2⟩ :=
  Origin.forall_mem_inOrder_iff

theorem forall_mem_declaredSwaps_iff {origin : Origin} {property : SwapPair → Prop} :
    (∀ declared ∈ declaredSwaps origin, property declared) ↔ ∀ destination ∈ origin.destinations,
      ∀ swap ∈ destination.swaps,
        property ⟨swap.swapInput, destination.chain, swap.bridgeInput, swap.bridgeOutput⟩ :=
  Origin.forall_mem_inOrder_iff

/-! ## The declarations of several origins -/

/-- The declarations of origins, each with its origin: by origin, then in the order of the origin. -/
def declared {δ : Type} (declarations : Origin → List δ) (origins : List Origin) :
    List (Origin × δ) :=
  origins.flatMap fun origin ↦ (declarations origin).map fun declaration ↦ (origin, declaration)

@[simp] theorem declared_cons {δ : Type} (declarations : Origin → List δ) (origin : Origin)
    (rest : List Origin) :
    declared declarations (origin :: rest) =
      (declarations origin).map (fun declaration ↦ (origin, declaration)) ++
        declared declarations rest := rfl

/-- A declaration is one of those of its origin, and the origin is one of the origins. -/
theorem mem_declared_iff {δ : Type} {declarations : Origin → List δ} {origins : List Origin}
    {entry : Origin × δ} :
    entry ∈ declared declarations origins ↔ entry.1 ∈ origins ∧ entry.2 ∈ declarations entry.1 := by
  rcases entry with ⟨origin, declaration⟩
  simp only [declared, List.mem_flatMap, List.mem_map, Prod.mk.injEq]
  constructor
  · intro hmember
    rcases hmember with ⟨_, horigin, _, hdeclaration, rfl, rfl⟩
    exact ⟨horigin, hdeclaration⟩
  · intro hmember
    exact ⟨origin, hmember.1, declaration, hmember.2, rfl, rfl⟩

end Route

end HubRoutes
