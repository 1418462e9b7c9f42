import HubRoutes.Address
import HubRoutes.Chain
import HubRoutes.OrderedMap

/-!
# Token registries

A registry knows tokens by symbol and the address of each token on the chains where it is deployed.
Whoever only looks addresses up needs the registry's answers, not the registry.
-/

namespace HubRoutes.Token

/-- The answers to the question for the address of a symbol on a chain. -/
abbrev Source := String → ChainId → Option Address

abbrev Deployments := OrderedMap ChainId Address

/-- The known tokens with their deployments. A token may be known and deployed nowhere. -/
structure Registry where
  tokens : OrderedMap String Deployments
deriving DecidableEq

namespace Registry

def empty : Registry := ⟨∅⟩

instance : Inhabited Registry := ⟨empty⟩

/-- The registry after one more deployment; an earlier address of the token on the chain is gone. -/
def insert (registry : Registry) (symbol : String) (chain : ChainId) (address : Address) :
    Registry :=
  ⟨registry.tokens.insert symbol
    (((registry.tokens.find? symbol).getD ∅).insert chain address)⟩

def address? (registry : Registry) : Source := fun symbol chain ↦
  (registry.tokens.find? symbol).bind fun deployments ↦ deployments.find? chain

def symbols (registry : Registry) : List String := registry.tokens.keys

def size (registry : Registry) : Nat := registry.tokens.size

def isEmpty (registry : Registry) : Bool := registry.tokens.isEmpty

@[simp] theorem length_symbols (registry : Registry) : registry.symbols.length = registry.size :=
  OrderedMap.length_keys _

@[simp] theorem address?_empty (symbol : String) (chain : ChainId) :
    empty.address? symbol chain = none := rfl

/-- After an insertion the inserted deployment is answered and all other answers are as before. -/
theorem address?_insert (registry : Registry) (symbol other : String) (chain place : ChainId)
    (address : Address) :
    (registry.insert symbol chain address).address? other place =
      if other = symbol ∧ place = chain then some address else registry.address? other place := by
  simp only [address?, insert, OrderedMap.find?_insert]
  by_cases hsymbol : other = symbol
  · subst hsymbol
    simp only [if_true, true_and, Option.bind_some, OrderedMap.find?_insert]
    cases registry.tokens.find? other with
    | none => rfl
    | some deployments => rfl
  · simp [hsymbol]

end Registry

end HubRoutes.Token
