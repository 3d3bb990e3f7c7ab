import Bcrypt.Proofs.Hashing
import Bcrypt.Proofs.Machine.KeySchedule
import Bcrypt.Proofs.Machine.Radix64

/-!
# Hashing on a machine

The password is copied into a key of fixed size, the ciphertext and the encoded digest
out of buffers of fixed size. Every copy fits: a machine hashes as hashing says, and
leaves a caller's buffer as hashing leaves it.
-/

set_option autoImplicit false

namespace Bcrypt.Machine

open Blowfish (CipherState)

def decodeSized {ε : Type} (words : Radix64.Wording ε) (size : Nat) (text : List UInt8) :
    Fallible ε (Vector UInt8 size) := do
  let bytes ← (decode text).adapt words.undecoded
  match Radix64.ofSize? size bytes with
  | some sized => answer (.ok sized)
  | none => answer (.error (words.missized bytes.length))

def decodeSalt (text : List UInt8) : Fallible SaltError Salt := do
  return ⟨← decodeSized Salt.wording Limits.saltSize text⟩

def decodeDigest (text : List UInt8) : Fallible Error Digest := do
  return ⟨← decodeSized Digest.wording Limits.digestSize text⟩

section

variable {text : List UInt8} (stored : text.length < USize.size / 2)

include stored

theorem decode_sized_runs {ε : Type} (words : Radix64.Wording ε) (size : Nat) :
    decodeSized words size text = answer (Radix64.decodeSized words size text) := by
  rw [decodeSized, decode_runs stored, adapt_answer, Radix64.decodeSized]
  cases Radix64.decode text with
  | error => rfl
  | ok bytes =>
      simp only [Except.mapError, answer_ok_bind]
      cases Radix64.ofSize? size bytes <;> rfl

theorem decode_salt_runs : decodeSalt text = answer (Salt.decode text) := by
  rw [decodeSalt, decode_sized_runs stored, Salt.decode]
  cases Radix64.decodeSized Salt.wording Limits.saltSize text <;> rfl

theorem decode_digest_runs : decodeDigest text = answer (Digest.decode text) := by
  rw [decodeDigest, decode_sized_runs stored, Digest.decode]
  cases Radix64.decodeSized Digest.wording Limits.digestSize text <;> rfl

end

theorem encode_vector_runs {size : Nat} (bytes : Vector UInt8 size) (small : size < 2 ^ 31) :
    encode bytes.toList = .ok (Radix64.encode bytes.toList) := by
  have limit := USize.le_size
  exact encode_runs (by rw [Vector.length_toList]; omega)

theorem encode_salt_runs (salt : Salt) : encode salt.bytes.toList = .ok salt.encode :=
  encode_vector_runs salt.bytes (by decide)

theorem encode_digest_runs (digest : Digest) : encode digest.bytes.toList = .ok digest.encode :=
  encode_vector_runs digest.bytes (by decide)

/-- The first bytes of a password with a zero behind them, in a buffer that has room for
all significant bytes and one more. -/
def copyKey (password : List UInt8) (used : Nat) : Checked (List UInt8) := do
  let significant ← slice password 0 used
  let key ← copyInto (List.replicate (Limits.significantSize + 1) 0) 0 used significant
  slice key 0 (← add used 1)

def keyOfPassword (password : List UInt8) : Checked (List UInt8) :=
  copyKey password (min password.length Limits.significantSize)

def hashRaw (password : List UInt8) (cost : Cost) (salt : Salt) : Fallible Error Digest := do
  let key ← lift (keyOfPassword password)
  let state ← lift (setup .initial cost salt key)
  let ciphertext ← times (fun _ buffer => encryptStream state buffer) 0 64 plaintext.toList
  let bytes ← lift do fill Limits.digestSize (← slice ciphertext 0 Limits.digestSize)
  return ⟨bytes⟩

theorem copy_key_runs {password : List UInt8} {used : Nat} (held : used ≤ password.length)
    (room : used ≤ 72) : copyKey password used = .ok (password.take used ++ [0]) := by
  have sized : (password.take used).length = used := List.length_take_of_le held
  have closed : (password.take used ++ [0]).length = used + 1 := by
    rw [List.length_append, sized, List.length_singleton]
  have zeros : List.replicate (73 - used) (0 : UInt8) = [0] ++ List.replicate (72 - used) 0 := by
    rw [show 73 - used = 72 - used + 1 by omega, List.replicate_succ, List.singleton_append]
  have copied : copyInto (List.replicate 73 0) 0 used (password.take used) =
      .ok ((password.take used ++ [0]) ++ List.replicate (72 - used) 0) := by
    rw [copy_into_ok (by rw [List.length_replicate]; omega) (by omega), List.drop_replicate, zeros,
      List.take_zero, List.nil_append, List.append_assoc]
  have key : slice ((password.take used ++ [0]) ++ List.replicate (72 - used) 0) 0 (used + 1) =
      .ok (password.take used ++ [0]) := by
    rw [slice_ok (Nat.zero_le _) (by rw [List.length_append, closed]; omega),
      List.take_left' closed, List.drop_zero]
  rw [copyKey, slice_ok (Nat.zero_le _) held, ok_bind]
  change (copyInto (List.replicate 73 0) 0 used (password.take used) >>= _) = _
  rw [copied, ok_bind, add_small (by omega), ok_bind, key]

theorem key_of_password_runs (password : List UInt8) :
    keyOfPassword password = .ok (Bcrypt.keyOfPassword password) := by
  rw [key_of_password]
  exact copy_key_runs (Nat.min_le_left _ _) (Nat.min_le_right _ _)

theorem encrypt_times_run {size : Nat} (state : CipherState) (buffer : Vector UInt8 size)
    (turn count : Nat) :
    times (fun _ buffer => encryptStream state buffer) turn count buffer.toList =
      answer ((encryptTimes state buffer count).map Vector.toList) := by
  induction count generalizing buffer turn with
  | zero => rfl
  | succ count ih =>
      rw [times, encrypt_stream_runs, encryptTimes]
      cases state.encryptStream buffer with
      | error => rfl
      | ok encrypted => exact ih encrypted (turn + 1)

theorem key_stored (password : List UInt8) :
    (Bcrypt.keyOfPassword password).length < USize.size := by
  have limit := USize.le_size
  rw [key_of_password, List.length_append, List.length_take, List.length_singleton]
  omega

theorem hash_raw_runs (password : List UInt8) (cost : Cost) (salt : Salt) :
    hashRaw password cost salt = answer (digestOf password cost salt).result := by
  rw [hashRaw, key_of_password_runs, lift_ok, answer_ok_bind,
    setup_runs .initial (key_stored password), lift_ok, answer_ok_bind, encrypt_times_run,
    digest_of_eq, digestUnderKey]
  cases encryptTimes (CipherState.initial.schedule cost salt (Bcrypt.keyOfPassword password))
      plaintext 64 with
  | error => rfl
  | ok ciphertext =>
      have bytes : slice ciphertext.toList 0 23 = .ok ciphertext.pop.toList := by
        rw [slice_ok (Nat.zero_le _) (by rw [Vector.length_toList]; omega), List.drop_zero,
          Vector.toList_pop, List.dropLast_eq_take, Vector.length_toList]
      change (lift (slice ciphertext.toList 0 23 >>= fill 23) >>= fun bytes =>
          answer (.ok (Digest.mk bytes))) = _
      rw [bytes, ok_bind, fill_ok ciphertext.pop]
      rfl

def checkInputs (cost : Nat) (salt : List UInt8) : Fallible Error (Cost × Salt) := do
  let cost ← answer (Cost.ofNat cost)
  let salt ← (decodeSalt salt).adapt .invalidSalt
  return (cost, salt)

def hash (password : List UInt8) (cost : Nat) (salt : List UInt8) : Fallible Error String := do
  let (cost, salt) ← checkInputs cost salt
  let digest ← hashRaw password cost salt
  lift (encode digest.bytes.toList)

def hashForBuffer (password : List UInt8) (cost : Nat) (salt buffer : List UInt8) :
    Fallible Error String := do
  let (cost, salt) ← checkInputs cost salt
  if buffer.length < Digest.encodedLength then
    answer (.error (.bufferTooSmall Digest.encodedLength buffer.length))
  else
    let digest ← hashRaw password cost salt
    lift (encode digest.bytes.toList)

/-- The buffer afterwards comes with the answer. -/
def hashInto (password : List UInt8) (cost : Nat) (salt buffer : List UInt8) :
    Checked (Except Error Nat × List UInt8) := do
  match ← (hashForBuffer password cost salt buffer).run with
  | .error error => return (.error error, buffer)
  | .ok encoded =>
      let written := Text.bytes encoded
      return (.ok written.length, ← copyInto buffer 0 written.length written)

section

variable (password : List UInt8) (value : Nat) {saltText : List UInt8}
  (stored : saltText.length < USize.size / 2)

include stored

theorem check_inputs_runs :
    checkInputs value saltText = answer (Bcrypt.checkInputs value saltText) := by
  rw [checkInputs, decode_salt_runs stored, adapt_answer, Bcrypt.checkInputs]
  cases Cost.ofNat value with
  | error => rfl
  | ok cost => cases Salt.decode saltText <;> rfl

theorem hash_runs :
    hash password value saltText = answer (Bcrypt.hash password value saltText).result := by
  rw [hash, check_inputs_runs value stored]
  cases checked : Bcrypt.checkInputs value saltText with
  | error =>
      rw [hash_of_refused checked]
      rfl
  | ok inputs =>
      rcases digest_of_succeeds password inputs.1 inputs.2 with ⟨digest, digested⟩
      rw [hash_of_accepted checked digested]
      change (hashRaw password inputs.1 inputs.2 >>= fun digest =>
          lift (encode digest.bytes.toList)) = _
      rw [hash_raw_runs, digested, answer_ok_bind, encode_digest_runs]
      rfl

theorem hash_into_runs (buffer : List UInt8) :
    hashInto password value saltText buffer =
      .ok ((Bcrypt.hashInto password value saltText buffer).1.result,
        (Bcrypt.hashInto password value saltText buffer).2) := by
  rw [hashInto, hashForBuffer, check_inputs_runs value stored]
  cases checked : Bcrypt.checkInputs value saltText with
  | error =>
      rw [hash_into_of_refused checked]
      rfl
  | ok inputs =>
      rcases digest_of_succeeds password inputs.1 inputs.2 with ⟨digest, digested⟩
      by_cases fits : 31 ≤ buffer.length
      · have roomy : ¬buffer.length < Digest.encodedLength := Nat.not_lt.mpr fits
        have length : (Text.bytes digest.encode).length = 31 := digest.encode_length
        have copied : copyInto buffer 0 31 (Text.bytes digest.encode) =
            .ok (Text.bytes digest.encode ++ buffer.drop 31) := by
          rw [copy_into_ok fits (by rw [length]), List.take_zero, List.nil_append]
        rw [hash_into_of_fitting checked digested fits]
        simp only [answer_ok_bind, if_neg roomy, hash_raw_runs, digested, encode_digest_runs,
          lift_ok, answer_run, ok_bind]
        rw [length, copied]
        rfl
      · have small : buffer.length < Digest.encodedLength := Nat.not_le.mp fits
        rw [hash_into_of_small checked small]
        simp only [answer_ok_bind, if_pos small]
        rfl

end

end Bcrypt.Machine
