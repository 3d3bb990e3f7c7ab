import Bcrypt.Limits
import Bcrypt.Text.Hexadecimal
import Bcrypt.Text.Quoted

/-!
# What can go wrong

Each error names its cause and carries what the message needs. An error that wraps
another one gives it as its cause, so that a report can show the chain.
-/

set_option autoImplicit false

namespace Bcrypt

inductive DecodeError where
  | invalidByte (offset : Nat) (byte : UInt8)
  /-- One symbol is left over at the end, too few bits for a byte. -/
  | invalidLength (length : Nat)
  deriving DecidableEq

inductive SaltError where
  | length (decoded : Nat)
  | encoding (error : DecodeError)
  deriving DecidableEq

inductive Error where
  | invalidCost (cost : Nat)
  | invalidSalt (error : SaltError)
  | invalidEncoding (error : DecodeError)
  | bufferTooSmall (needed actual : Nat)
  /-- A hash string does not have its shape; the detail says where. -/
  | malformedHash (detail : String)
  | unsupportedVersion (version : String)
  | internal (detail : String)
  deriving DecidableEq

namespace DecodeError

def message : DecodeError → String
  | .invalidByte offset byte =>
      "invalid character 0x" ++ String.ofList (Text.Hexadecimal.ofByte byte) ++ " at offset " ++
        toString offset
  | .invalidLength length =>
      "invalid length " ++ toString length ++ ": a trailing group of one character holds no byte"

end DecodeError

namespace SaltError

/-- An encoding error speaks for itself. -/
def message : SaltError → String
  | .length decoded =>
      "decoded to " ++ toString decoded ++ " bytes, expected " ++ toString Limits.saltSize
  | .encoding error => error.message

end SaltError

namespace Error

def message : Error → String
  | .invalidCost cost =>
      "invalid cost " ++ toString cost ++ ": must be between " ++ toString Limits.leastCost ++
        " and " ++ toString Limits.greatestCost
  | .invalidSalt error => "invalid salt: " ++ error.message
  | .invalidEncoding error => "invalid bcrypt base64: " ++ error.message
  | .bufferTooSmall needed actual =>
      "output buffer too small: need " ++ toString needed ++ " bytes, got " ++ toString actual
  | .malformedHash detail => "malformed hash string: " ++ detail
  | .unsupportedVersion version => "unsupported bcrypt version " ++ Text.Quoted.quote version
  | .internal detail => "internal error: " ++ detail

/-- The texts of the errors behind this one, nearest first. Only a wrapped error has one. -/
def causes : Error → List String
  | .invalidSalt error => [error.message]
  | .invalidEncoding error => [error.message]
  | _ => []

end Error

end Bcrypt
