import Bcrypt.Blowfish.KeySchedule
import Bcrypt.Outcome

/-!
# Digests of passwords

The password keys the cipher at the given cost, and the cipher encrypts a fixed text
sixty-four times. All inputs are checked before the key schedule runs.
-/

set_option autoImplicit false

namespace Bcrypt

open Blowfish (CipherState)

def keyOfPassword (password : List UInt8) : List UInt8 :=
  password.take Limits.significantSize ++ [0]

def plaintext : Vector UInt8 24 := #v[
  0x4f, 0x72, 0x70, 0x68, 0x65, 0x61, 0x6e, 0x42, 0x65, 0x68, 0x6f, 0x6c,
  0x64, 0x65, 0x72, 0x53, 0x63, 0x72, 0x79, 0x44, 0x6f, 0x75, 0x62, 0x74]

def encryptTimes {size : Nat} (state : CipherState) (buffer : Vector UInt8 size) :
    Nat → Except Error (Vector UInt8 size)
  | 0 => .ok buffer
  | count + 1 =>
      match state.encryptStream buffer with
      | .error error => .error error
      | .ok buffer => encryptTimes state buffer count

def keyCipher (state : CipherState) (cost : Cost) (salt : Salt) (key : List UInt8) :
    Outcome CipherState := do
  Outcome.report (.keySchedule cost.rounds)
  return state.schedule cost salt key

/-- The digest of a password. The last byte of the ciphertext is dropped. -/
def digestOf (password : List UInt8) (cost : Cost) (salt : Salt) : Outcome Digest := do
  if Limits.significantSize < password.length then
    Outcome.report (.passwordTruncated password.length)
  Outcome.report (.digestDerivation cost)
  let state ← keyCipher .initial cost salt (keyOfPassword password)
  let ciphertext ← Outcome.ofExcept (encryptTimes state plaintext 64)
  return ⟨ciphertext.pop⟩

def checkInputs (cost : Nat) (salt : List UInt8) : Except Error (Cost × Salt) := do
  let cost ← Cost.ofNat cost
  match Salt.decode salt with
  | .error error => throw (.invalidSalt error)
  | .ok salt => return (cost, salt)

def hash (password : List UInt8) (cost : Nat) (salt : List UInt8) : Outcome String := do
  let (cost, salt) ← Outcome.ofExcept (checkInputs cost salt)
  let digest ← digestOf password cost salt
  return digest.encode

def overwrite (buffer written : List UInt8) : List UInt8 :=
  written ++ buffer.drop written.length

/-- Hashes into a buffer: the number of bytes written, and the buffer afterwards. A
buffer that cannot hold an encoded digest is refused before any work is done. -/
def hashInto (password : List UInt8) (cost : Nat) (salt : List UInt8) (buffer : List UInt8) :
    Outcome Nat × List UInt8 :=
  let outcome : Outcome String := do
    let (cost, salt) ← Outcome.ofExcept (checkInputs cost salt)
    if buffer.length < Digest.encodedLength then
      Outcome.ofExcept (.error (.bufferTooSmall Digest.encodedLength buffer.length))
    let digest ← digestOf password cost salt
    return digest.encode
  match outcome.result with
  | .error error => (⟨.error error, outcome.log⟩, buffer)
  | .ok encoded =>
      (⟨.ok (Text.bytes encoded).length, outcome.log⟩, overwrite buffer (Text.bytes encoded))

end Bcrypt
