import Bcrypt.Hash

/-!
# Making and checking hash strings

A hasher is bound to one cost and one salt. It knows the hash strings it made by these
two; any other string is no match, and no work is spent on it. Without a hasher, cost
and salt are those of the string itself.
-/

set_option autoImplicit false

namespace Bcrypt

/-- Whether a password has the digest of a hash string. Bits of the encoding that belong
to no byte do not count. -/
def digestMatches (password : List UInt8) (parts : HashString) : Outcome Bool := do
  let computed ← digestOf password parts.cost parts.salt
  return computed = parts.digest

@[ext] structure Hasher where
  cost : Cost
  salt : Salt
  deriving DecidableEq

namespace Hasher

def make (cost : Nat) (salt : Salt) : Except Error Hasher :=
  (Cost.ofNat cost).map fun cost => ⟨cost, salt⟩

def hash (hasher : Hasher) (password : List UInt8) : Outcome String := do
  let digest ← digestOf password hasher.cost hasher.salt
  return HashString.print ⟨.default, hasher.cost, hasher.salt, digest⟩

def verify (hasher : Hasher) (password : List UInt8) (hashed : String) : Outcome Bool := do
  let parts ← Outcome.ofExcept (HashString.parse hashed)
  if parts.cost = hasher.cost ∧ parts.salt = hasher.salt then
    digestMatches password parts
  else
    Outcome.report .foreignHash
    return false

end Hasher

def hashPassword (drawn : Salt) (password : List UInt8) (cost : Nat) : Outcome String := do
  let hasher ← Outcome.ofExcept (Hasher.make cost drawn)
  hasher.hash password

def verify (password : List UInt8) (hashed : String) : Outcome Bool :=
  Outcome.within "verify" do
    let parts ← Outcome.ofExcept (HashString.parse hashed)
    let matched ← digestMatches password parts
    Outcome.report (.verified parts.version parts.cost matched)
    return matched

end Bcrypt
