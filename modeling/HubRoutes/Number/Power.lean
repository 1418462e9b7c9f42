/-!
# Powers of two and ten

The powers by which significands are scaled. An exponent is an integer; a negative one scales
nothing here and its absolute value is used on the other side of a quotient.
-/

namespace HubRoutes.Number

/-- The power of two with an exponent; a negative exponent counts as zero. -/
def twoTo (exponent : Int) : Nat := Nat.pow 2 exponent.toNat

def tenTo (exponent : Int) : Nat := Nat.pow 10 exponent.toNat

end HubRoutes.Number
