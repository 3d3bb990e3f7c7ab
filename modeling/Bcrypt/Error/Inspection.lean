import Bcrypt.Error

/-!
# Errors written out as values

The one-line form of an error that shows how it is built: the name of the case, then its
fields, named between braces or plain between parentheses. Texts are quoted.
-/

set_option autoImplicit false

namespace Bcrypt

namespace Inspection

def plain (name field : String) : String :=
  name ++ "(" ++ field ++ ")"

def named (name firstName first secondName second : String) : String :=
  name ++ " \x7b " ++ firstName ++ ": " ++ first ++ ", " ++ secondName ++ ": " ++ second ++ " \x7d"

end Inspection

open Inspection

def DecodeError.inspect : DecodeError → String
  | .invalidByte offset byte =>
      named "InvalidByte" "offset" (toString offset) "byte" (toString byte.toNat)
  | .invalidLength length => plain "InvalidLength" (toString length)

def SaltError.inspect : SaltError → String
  | .length decoded => plain "Length" (toString decoded)
  | .encoding error => plain "Encoding" error.inspect

def Error.inspect : Error → String
  | .invalidCost cost => plain "InvalidCost" (toString cost)
  | .invalidSalt error => plain "InvalidSalt" error.inspect
  | .invalidEncoding error => plain "InvalidEncoding" error.inspect
  | .bufferTooSmall needed actual =>
      named "BufferTooSmall" "needed" (toString needed) "actual" (toString actual)
  | .malformedHash detail => plain "MalformedHash" (Text.Quoted.quote detail)
  | .unsupportedVersion version => plain "UnsupportedVersion" (Text.Quoted.quote version)
  | .internal detail => plain "Internal" (Text.Quoted.quote detail)

end Bcrypt
