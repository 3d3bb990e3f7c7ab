/-!
# The sizes that bcrypt fixes

All sizes are in bytes.
-/

set_option autoImplicit false

namespace Bcrypt.Limits

def leastCost : Nat := 4
def greatestCost : Nat := 31

def defaultCost : Nat := 10

def saltSize : Nat := 16
def digestSize : Nat := 23

def significantSize : Nat := 72

end Bcrypt.Limits
