/-!
# Bridged aliases

A locally bridged variant of a token has a symbol of its own but is the same asset as the token it
stands for. Its identity is looked up on the hub chain under the canonical symbol.
-/

namespace HubRoutes.Token.Alias

/-- The bridged variants, each with the symbol that it stands for. -/
def variants : List (String × String) := [("USDC.e", "USDC"), ("USDbC", "USDC")]

/-- The symbol under which a token is known on the hub chain. -/
def canonical (symbol : String) : String := (variants.lookup symbol).getD symbol

def isAlias (symbol : String) : Bool := (variants.lookup symbol).isSome

end HubRoutes.Token.Alias
