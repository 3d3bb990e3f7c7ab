import Bcrypt.Proofs.Machine.HashString

/-!
# No call faults

What the library offers is a set of calls. On a machine that checks every index, range,
copy, shift, sum, product and difference, each of them ends with the answer of the
library, which may be an error, and with no fault. Inputs are bounded by nothing but the
memory that has to hold them.
-/

set_option autoImplicit false

namespace Bcrypt.Machine

open Blowfish (CipherState)

def digestMatches (password : List UInt8) (parts : HashString) : Fallible Error Bool := do
  let computed ← hashRaw password parts.cost parts.salt
  return computed = parts.digest

def hasherHash (hasher : Hasher) (password : List UInt8) : Fallible Error String := do
  let digest ← hashRaw password hasher.cost hasher.salt
  lift (print ⟨.default, hasher.cost, hasher.salt, digest⟩)

def hasherVerify (hasher : Hasher) (password : List UInt8) (hashed : String) :
    Fallible Error Bool := do
  let parts ← parse hashed
  if parts.cost = hasher.cost ∧ parts.salt = hasher.salt then
    digestMatches password parts
  else
    return false

def hashPassword (drawn : Salt) (password : List UInt8) (cost : Nat) : Fallible Error String := do
  let hasher ← answer (Hasher.make cost drawn)
  hasherHash hasher password

def verify (password : List UInt8) (hashed : String) : Fallible Error Bool := do
  let parts ← parse hashed
  digestMatches password parts

section

variable (password : List UInt8)

theorem digest_matches_runs (parts : HashString) :
    digestMatches password parts = answer (Bcrypt.digestMatches password parts).result := by
  rcases digest_of_succeeds password parts.cost parts.salt with ⟨digest, digested⟩
  rw [digestMatches, hash_raw_runs, digested, digest_matches_eq digested]
  rfl

theorem hasher_hash_runs (hasher : Hasher) :
    hasherHash hasher password = answer (hasher.hash password).result := by
  rcases digest_of_succeeds password hasher.cost hasher.salt with ⟨digest, digested⟩
  rw [hasherHash, hash_raw_runs, digested, hasher_hash_eq digested, answer_ok_bind, print_runs]
  rfl

theorem hasher_verify_runs (hasher : Hasher) (hashed : String) :
    hasherVerify hasher password hashed = answer (hasher.verify password hashed).result := by
  rw [hasherVerify, parse_runs, Hasher.verify]
  cases HashString.parse hashed with
  | error => rfl
  | ok parts =>
      rw [answer_ok_bind, Outcome.of_except_ok_bind]
      by_cases own : parts.cost = hasher.cost ∧ parts.salt = hasher.salt
      · rw [if_pos own, if_pos own, digest_matches_runs]
      · rw [if_neg own, if_neg own]
        rfl

theorem hash_password_runs (drawn : Salt) (cost : Nat) :
    hashPassword drawn password cost = answer (Bcrypt.hashPassword drawn password cost).result := by
  rw [hashPassword, Bcrypt.hashPassword]
  cases Hasher.make cost drawn with
  | error => rfl
  | ok hasher => exact hasher_hash_runs password hasher

theorem verify_runs (hashed : String) :
    verify password hashed = answer (Bcrypt.verify password hashed).result := by
  rw [verify, parse_runs]
  cases parsed : HashString.parse hashed with
  | error =>
      rw [verify_of_error password parsed]
      rfl
  | ok parts =>
      rcases digest_of_succeeds password parts.cost parts.salt with ⟨digest, digested⟩
      rw [answer_ok_bind, digest_matches_runs, verify_of_parts parsed digested,
        digest_matches_eq digested]
      rfl

end

/-- Bytes side by side in memory: they take no more than half of all addresses. -/
structure Region where
  bytes : List UInt8
  stored : bytes.length < USize.size / 2

/-- A call with its inputs, by the type of what it answers. A call that writes to a
buffer or a state answers what it leaves there too. Calls that neither count nor reach
for anything have nothing to check and are not listed. -/
inductive Call : Type → Type where
  | encodedLength (bytes : Region) : Call Nat
  | decodedLength (length : USize) : Call (Option Nat)
  | encode (bytes : Region) : Call String
  | decode (text : Region) : Call (Except DecodeError (List UInt8))
  | rounds (cost : Cost) : Call Nat
  | decodeSalt (text : Region) : Call (Except SaltError Salt)
  | encodeSalt (salt : Salt) : Call String
  | decodeDigest (text : Region) : Call (Except Error Digest)
  | encodeDigest (digest : Digest) : Call String
  | encrypt (state : CipherState) (block : Block) : Call Block
  | encryptStream {size : Nat} (state : CipherState) (buffer : Vector UInt8 size) :
      Call (Except Error (List UInt8))
  | expandKey (state : CipherState) (key : Region) : Call CipherState
  | expandKeyWithSalt (state : CipherState) (key : Region) (salt : Salt) : Call CipherState
  | setup (state : CipherState) (cost : Cost) (salt : Salt) (key : Region) : Call CipherState
  | hashRaw (password : Region) (cost : Cost) (salt : Salt) : Call (Except Error Digest)
  | hash (password : Region) (cost : Nat) (salt : Region) : Call (Except Error String)
  | hashInto (password : Region) (cost : Nat) (salt buffer : Region) :
      Call (Except Error Nat × List UInt8)
  | parse (text : String) : Call (Except Error HashString)
  | print (parts : HashString) : Call String
  | hasherHash (hasher : Hasher) (password : Region) : Call (Except Error String)
  | hasherVerify (hasher : Hasher) (password : Region) (hashed : String) : Call (Except Error Bool)
  | hashPassword (drawn : Salt) (password : Region) (cost : Nat) : Call (Except Error String)
  | verify (password : Region) (hashed : String) : Call (Except Error Bool)

namespace Call

def run {α : Type} : Call α → Checked α
  | encodedLength bytes => Machine.encodedLength bytes.bytes.length
  | decodedLength length => Machine.decodedLength? length.toNat
  | encode bytes => Machine.encode bytes.bytes
  | decode text => (Machine.decode text.bytes).run
  | rounds cost => Machine.rounds cost
  | decodeSalt text => (Machine.decodeSalt text.bytes).run
  | encodeSalt salt => Machine.encode salt.bytes.toList
  | decodeDigest text => (Machine.decodeDigest text.bytes).run
  | encodeDigest digest => Machine.encode digest.bytes.toList
  | encrypt state block => Machine.encrypt state block
  | encryptStream state buffer => (Machine.encryptStream state buffer.toList).run
  | expandKey state key => Machine.expandKey state key.bytes
  | expandKeyWithSalt state key salt => Machine.expandKeyWithSalt state key.bytes salt
  | setup state cost salt key => Machine.setup state cost salt key.bytes
  | hashRaw password cost salt => (Machine.hashRaw password.bytes cost salt).run
  | hash password cost salt => (Machine.hash password.bytes cost salt.bytes).run
  | hashInto password cost salt buffer =>
      Machine.hashInto password.bytes cost salt.bytes buffer.bytes
  | parse text => (Machine.parse text).run
  | print parts => Machine.print parts
  | hasherHash hasher password => (Machine.hasherHash hasher password.bytes).run
  | hasherVerify hasher password hashed => (Machine.hasherVerify hasher password.bytes hashed).run
  | hashPassword drawn password cost => (Machine.hashPassword drawn password.bytes cost).run
  | verify password hashed => (Machine.verify password.bytes hashed).run

def reply {α : Type} : Call α → α
  | encodedLength bytes => Radix64.encodedLength bytes.bytes.length
  | decodedLength length => Radix64.decodedLength? length.toNat
  | encode bytes => Radix64.encode bytes.bytes
  | decode text => Radix64.decode text.bytes
  | rounds cost => cost.rounds
  | decodeSalt text => Salt.decode text.bytes
  | encodeSalt salt => salt.encode
  | decodeDigest text => Digest.decode text.bytes
  | encodeDigest digest => digest.encode
  | encrypt state block => state.encrypt block
  | encryptStream state buffer => (state.encryptStream buffer).map Vector.toList
  | expandKey state key => state.expandKey key.bytes
  | expandKeyWithSalt state key salt => state.expandKeyWithSalt key.bytes salt
  | setup state cost salt key => state.schedule cost salt key.bytes
  | hashRaw password cost salt => (digestOf password.bytes cost salt).result
  | hash password cost salt => (Bcrypt.hash password.bytes cost salt.bytes).result
  | hashInto password cost salt buffer =>
      let (outcome, after) := Bcrypt.hashInto password.bytes cost salt.bytes buffer.bytes
      (outcome.result, after)
  | parse text => HashString.parse text
  | print parts => parts.print
  | hasherHash hasher password => (hasher.hash password.bytes).result
  | hasherVerify hasher password hashed => (hasher.verify password.bytes hashed).result
  | hashPassword drawn password cost => (Bcrypt.hashPassword drawn password.bytes cost).result
  | verify password hashed => (Bcrypt.verify password.bytes hashed).result

end Call

theorem Region.counted (region : Region) : region.bytes.length < USize.size :=
  Nat.lt_of_lt_of_le region.stored (Nat.div_le_self _ _)

/-- Every check holds on the way to every answer. -/
theorem no_call_faults {α : Type} (call : Call α) : call.run = .ok call.reply := by
  cases call with
  | encodedLength bytes => exact encoded_length_runs bytes.stored
  | decodedLength length => exact decoded_length_runs length.toNat_lt_size
  | encode bytes => exact encode_runs bytes.stored
  | decode text => exact congrArg ExceptT.run (decode_runs text.stored)
  | rounds cost => exact rounds_run cost
  | decodeSalt text => exact congrArg ExceptT.run (decode_salt_runs text.stored)
  | encodeSalt salt => exact encode_salt_runs salt
  | decodeDigest text => exact congrArg ExceptT.run (decode_digest_runs text.stored)
  | encodeDigest digest => exact encode_digest_runs digest
  | encrypt state block => exact encrypt_runs state block
  | encryptStream state buffer => exact congrArg ExceptT.run (encrypt_stream_runs state buffer)
  | expandKey state key => exact expand_key_runs state key.counted
  | expandKeyWithSalt state key salt => exact expand_key_with_salt_runs state key.counted salt
  | setup state cost salt key => exact setup_runs state key.counted cost salt
  | hashRaw password cost salt =>
      exact congrArg ExceptT.run (hash_raw_runs password.bytes cost salt)
  | hash password cost salt =>
      exact congrArg ExceptT.run (hash_runs password.bytes cost salt.stored)
  | hashInto password cost salt buffer =>
      exact hash_into_runs password.bytes cost salt.stored buffer.bytes
  | parse text => exact congrArg ExceptT.run (parse_runs text)
  | print parts => exact print_runs parts
  | hasherHash hasher password =>
      exact congrArg ExceptT.run (hasher_hash_runs password.bytes hasher)
  | hasherVerify hasher password hashed =>
      exact congrArg ExceptT.run (hasher_verify_runs password.bytes hasher hashed)
  | hashPassword drawn password cost =>
      exact congrArg ExceptT.run (hash_password_runs password.bytes drawn cost)
  | verify password hashed => exact congrArg ExceptT.run (verify_runs password.bytes hashed)

/-- An empty key, a text of a length that no encoding has, and a buffer that is too
small beside a salt that is written with spare bits. -/
theorem no_call_faults_for_odd_inputs :
    ∃ empty text salt buffer : Region,
      empty.bytes = [] ∧ text.bytes = Text.bytes "abcde" ∧
      salt.bytes = Text.bytes "CCCCCCCCCCCCCCCCCCCCCN" ∧ buffer.bytes = List.replicate 30 0xff ∧
      (Call.expandKey .initial empty).run = .ok (CipherState.initial.refresh .zero .zero) ∧
      (Call.decode text).run = .ok (.error (.invalidLength 5)) ∧
      (Call.hashInto empty 4 salt buffer).run =
        .ok (.error (.bufferTooSmall 31 30), List.replicate 30 0xff) := by
  have addresses := USize.le_size
  have stored (bytes : List UInt8) (short : bytes.length ≤ 30) :
      bytes.length < USize.size / 2 := by omega
  have unkeyed : CipherState.initial.addKey [] = .initial := dif_neg (not_not_intro rfl)
  have invalid : Radix64.decode (Text.bytes "abcde") = .error (.invalidLength 5) := by
    decide +kernel
  have checked : Bcrypt.checkInputs 4 (Text.bytes "CCCCCCCCCCCCCCCCCCCCCN") =
      .ok (⟨4, by decide, by decide⟩, ⟨#v[0x10, 0x41, 0x04, 0x10, 0x41, 0x04, 0x10, 0x41, 0x04,
        0x10, 0x41, 0x04, 0x10, 0x41, 0x04, 0x10]⟩) := by
    decide +kernel
  have small : (List.replicate 30 0xff : List UInt8).length < 31 := by decide
  refine ⟨⟨[], stored _ (by decide)⟩, ⟨Text.bytes "abcde", stored _ (by decide)⟩,
    ⟨Text.bytes "CCCCCCCCCCCCCCCCCCCCCN", stored _ (by decide)⟩,
    ⟨List.replicate 30 0xff, stored _ (by decide)⟩, rfl, rfl, rfl, rfl, ?_, ?_, ?_⟩
  · rw [no_call_faults, Call.reply, CipherState.expandKey, unkeyed]
  · rw [no_call_faults, Call.reply, invalid]
  · rw [no_call_faults, Call.reply]
    simp only [hash_into_of_small checked small, List.length_replicate]

end Bcrypt.Machine
