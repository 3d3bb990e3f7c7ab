/-!
# Decimal text
-/

set_option autoImplicit false

namespace Bcrypt.Text.Decimal

def read? (text : List Char) : Option Nat :=
  if text ≠ [] ∧ text.all Char.isDigit then some (Nat.ofDigitChars 10 text 0) else none

/-- Reads digits behind an optional sign. What is below zero is refused; a zero may have
either sign. -/
def readSigned? : List Char → Option Nat
  | '+' :: digits => read? digits
  | '-' :: digits => (read? digits).filter (· = 0)
  | digits => read? digits

end Bcrypt.Text.Decimal
