import Bcrypt.Error

/-!
# Costs

A cost is the binary logarithm of the number of re-keyings that a digest takes.
-/

set_option autoImplicit false

namespace Bcrypt

@[ext] structure Cost where
  value : Nat
  least_le : Limits.leastCost ≤ value
  le_greatest : value ≤ Limits.greatestCost
  deriving DecidableEq

namespace Cost

def ofNat (value : Nat) : Except Error Cost :=
  if inRange : Limits.leastCost ≤ value ∧ value ≤ Limits.greatestCost then
    .ok ⟨value, inRange.1, inRange.2⟩
  else
    .error (.invalidCost value)

def default : Cost := ⟨Limits.defaultCost, by decide, by decide⟩

def rounds (cost : Cost) : Nat := Nat.pow 2 cost.value

def digits (cost : Cost) : List Char :=
  [Nat.digitChar (cost.value / 10), Nat.digitChar (cost.value % 10)]

def text (cost : Cost) : String := String.ofList cost.digits

instance : Ord Cost where
  compare cost other := compare cost.value other.value

end Cost

end Bcrypt
