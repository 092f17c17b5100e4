/-!
# Powers

The powers that number formats are made of.
-/

set_option autoImplicit false

namespace TypedQuery.Number

/-- A power of two. -/
def twoTo (n : Nat) : Nat := Nat.pow 2 n

/-- A power of ten. -/
def tenTo (n : Nat) : Nat := Nat.pow 10 n

end TypedQuery.Number
