import Bcrypt.Radix64
import Bcrypt.Text.Utf8

/-!
# Digests

The twenty-three bytes that a password and a salt are turned into.
-/

set_option autoImplicit false

namespace Bcrypt

@[ext] structure Digest where
  bytes : Vector UInt8 23
  deriving DecidableEq

namespace Digest

def encodedLength : Nat := Radix64.encodedLength Limits.digestSize

def wording : Radix64.Wording Error :=
  ⟨.invalidEncoding, fun decoded =>
    .malformedHash ("digest decodes to " ++ toString decoded ++ " bytes, expected " ++
      toString Limits.digestSize)⟩

def decode (text : List UInt8) : Except Error Digest :=
  (Radix64.decodeSized wording Limits.digestSize text).map mk

def encode (digest : Digest) : String := Radix64.encode digest.bytes.toList

end Digest

end Bcrypt
