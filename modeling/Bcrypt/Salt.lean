import Bcrypt.Radix64
import Bcrypt.Text.Utf8
import Bcrypt.Word

/-!
# Salts

Sixteen bytes that make equal passwords hash differently.
-/

set_option autoImplicit false

namespace Bcrypt

@[ext] structure Salt where
  bytes : Vector UInt8 16
  deriving DecidableEq

namespace Salt

def encodedLength : Nat := Radix64.encodedLength Limits.saltSize

def ofList? (bytes : List UInt8) : Option Salt :=
  (Radix64.ofSize? Limits.saltSize bytes).map mk

def wording : Radix64.Wording SaltError := ⟨.encoding, .length⟩

def decode (text : List UInt8) : Except SaltError Salt :=
  (Radix64.decodeSized wording Limits.saltSize text).map mk

def parse (text : String) : Except SaltError Salt := decode (Text.bytes text)

def encode (salt : Salt) : String := Radix64.encode salt.bytes.toList

def firstHalf (salt : Salt) : Block :=
  ⟨Word.ofBytes salt.bytes[0] salt.bytes[1] salt.bytes[2] salt.bytes[3],
    Word.ofBytes salt.bytes[4] salt.bytes[5] salt.bytes[6] salt.bytes[7]⟩

def secondHalf (salt : Salt) : Block :=
  ⟨Word.ofBytes salt.bytes[8] salt.bytes[9] salt.bytes[10] salt.bytes[11],
    Word.ofBytes salt.bytes[12] salt.bytes[13] salt.bytes[14] salt.bytes[15]⟩

end Salt

end Bcrypt
