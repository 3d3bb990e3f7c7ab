/-!
# Hexadecimal text

Digits are lower-case.
-/

set_option autoImplicit false

namespace Bcrypt.Text.Hexadecimal

/-- The digits of a number, without leading zeros; zero has the one digit `0`. -/
def digits (number : Nat) : List Char :=
  Nat.toDigits 16 number

def ofByte (byte : UInt8) : List Char :=
  [Nat.digitChar (byte.toNat / 16), Nat.digitChar (byte.toNat % 16)]

end Bcrypt.Text.Hexadecimal
