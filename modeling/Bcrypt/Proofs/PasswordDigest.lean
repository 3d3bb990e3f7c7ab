import Bcrypt.Proofs.Blowfish.BlockStream
import Bcrypt.Proofs.Blowfish.Expansion

/-!
# Digests against a plain reference

The reference reads everything off endless streams of bytes, runs the textbook cipher
over one row of words, and encrypts each of the three blocks of its text on its own. The
digest of a password is that of the reference, for every password, cost and salt.
-/

set_option autoImplicit false

namespace Bcrypt

open Blowfish (CipherState)
open Blowfish.CipherState
open ByteStream

def digestUnderKey (key : List UInt8) (cost : Cost) (salt : Salt) : Except Error Digest :=
  (encryptTimes (CipherState.initial.schedule cost salt key) plaintext 64).map fun ciphertext =>
    ⟨ciphertext.pop⟩

def digestLog (length : Nat) (cost : Cost) : List Entry :=
  (if Limits.significantSize < length then [⟨[], .passwordTruncated length⟩] else []) ++
    [⟨[], .digestDerivation cost⟩, ⟨[], .keySchedule cost.rounds⟩]

theorem key_cipher_eq (state : CipherState) (cost : Cost) (salt : Salt) (key : List UInt8) :
    keyCipher state cost salt key =
      ⟨.ok (state.schedule cost salt key), [⟨[], .keySchedule cost.rounds⟩]⟩ := rfl

theorem digest_of_eq (password : List UInt8) (cost : Cost) (salt : Salt) :
    digestOf password cost salt =
      ⟨digestUnderKey (keyOfPassword password) cost salt, digestLog password.length cost⟩ := by
  rw [digestOf, digestUnderKey, key_cipher_eq]
  generalize CipherState.initial.schedule cost salt (keyOfPassword password) = state
  have rest :
      ((⟨.ok state, [⟨[], .keySchedule cost.rounds⟩]⟩ : Outcome CipherState) >>= fun state =>
        Outcome.ofExcept (encryptTimes state plaintext 64) >>= fun ciphertext =>
          (pure ⟨ciphertext.pop⟩ : Outcome Digest)) =
      ⟨(encryptTimes state plaintext 64).map fun ciphertext => ⟨ciphertext.pop⟩,
        [⟨[], .keySchedule cost.rounds⟩]⟩ := by
    rw [Outcome.bind_of_ok rfl]
    cases encryptTimes state plaintext 64 <;> rfl
  by_cases long : Limits.significantSize < password.length
  · simp only [if_pos long, digestLog, Outcome.report_bind, rest]
    rfl
  · simp only [if_neg long, digestLog, Outcome.report_bind, rest]
    rfl

namespace Reference

def text : List UInt8 := "OrpheanBeholderScryDoubt".toList.map Char.toUInt8

def blockBytes (block : Block) : List UInt8 :=
  [block.left, block.right].flatMap fun word =>
    [3, 2, 1, 0].map fun place => UInt8.ofNat (byteOf word place)

def textBlocks : List Block :=
  (List.range 3).map fun index =>
    ⟨wordAt (endless text) (2 * index), wordAt (endless text) (2 * index + 1)⟩

/-- Each block of the text encrypted sixty-four times on its own, without the last byte
of the last block. -/
def underKey (key : List UInt8) (cost : Nat) (salt : List UInt8) : List UInt8 :=
  let words := Blowfish.Textbook.schedule cost salt key
  ((textBlocks.map (Blowfish.Textbook.encrypt words)^[64]).flatMap blockBytes).dropLast

def digest (password : List UInt8) (cost : Nat) (salt : List UInt8) : List UInt8 :=
  underKey (password.take (min password.length 72) ++ [0]) cost salt

end Reference

theorem plaintext_blocks : plaintext.toList = Reference.textBlocks.flatMap Block.toBytes := by
  decide

theorem block_bytes (block : Block) : Reference.blockBytes block = block.toBytes := by
  simp only [Reference.blockBytes, Block.toBytes, to_bytes_places, List.flatMap_cons,
    List.flatMap_nil, List.append_nil]

theorem under_key_is_reference (key : List UInt8) (cost : Cost) (salt : Salt) :
    ∃ digest, digestUnderKey key cost salt = .ok digest ∧
      digest.bytes.toList = Reference.underKey key cost.value salt.bytes.toList := by
  obtain ⟨ciphertext, succeeded, bytes⟩ :=
    encrypt_times_of_blocks (CipherState.initial.schedule cost salt key) plaintext _
      plaintext_blocks 64
  refine ⟨⟨ciphertext.pop⟩, by rw [digestUnderKey, succeeded]; rfl, ?_⟩
  have cipher : (CipherState.initial.schedule cost salt key).encrypt =
      Blowfish.Textbook.encrypt (Blowfish.Textbook.schedule cost.value salt.bytes.toList key) := by
    funext block
    rw [Blowfish.encrypt_is_textbook, Blowfish.words_schedule]
  have blocks : Reference.blockBytes = Block.toBytes := funext block_bytes
  rw [Reference.underKey, blocks, ← cipher, ← bytes]
  exact Vector.toList_pop

theorem take_significant (password : List UInt8) :
    password.take (min password.length 72) = password.take 72 := by
  rw [Nat.min_comm, ← List.take_eq_take_min]

theorem key_of_password (password : List UInt8) :
    keyOfPassword password = password.take (min password.length 72) ++ [0] := by
  rw [take_significant]
  rfl

/-- Every password has a digest under every cost and salt, and it is the one of the reference. -/
theorem digest_is_reference (password : List UInt8) (cost : Cost) (salt : Salt) :
    ∃ digest, (digestOf password cost salt).result = .ok digest ∧
      digest.bytes.toList = Reference.digest password cost.value salt.bytes.toList := by
  rw [digest_of_eq, key_of_password, Reference.digest]
  exact under_key_is_reference _ cost salt

end Bcrypt
