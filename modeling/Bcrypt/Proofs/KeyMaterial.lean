import Bcrypt.Proofs.Verification

/-!
# What the key tells of a password

The key of a password is its first 72 bytes and a zero byte, and the key schedule reads
the first 72 bytes of the repetition of that key. Two passwords with the same 72 bytes
are interchangeable everywhere. The other way round, passwords of one length, or without
zero bytes, never share these 72 bytes unless they agree on all that takes part.
-/

set_option autoImplicit false

namespace Bcrypt

open Blowfish (CipherState)
open ByteStream

/-- The 72 bytes that the key schedule reads are the same for both passwords. -/
def SameKeyBytes (password other : List UInt8) : Prop :=
  ∀ position < 72, endless (password.take (min password.length 72) ++ [0]) position =
    endless (other.take (min other.length 72) ++ [0]) position

def Interchangeable (password other : List UInt8) : Prop :=
  (∀ cost salt, (digestOf password cost salt).result = (digestOf other cost salt).result) ∧
    ∀ hashed, (verify password hashed).result = (verify other hashed).result

theorem digest_under_key_congr (cost : Cost) (salt : Salt) {key other : List UInt8}
    (same : ∀ position < 72, endless key position = endless other position) :
    digestUnderKey key cost salt = digestUnderKey other cost salt := by
  rw [digestUnderKey, digestUnderKey, CipherState.schedule_congr same CipherState.initial cost salt]

theorem verify_congr {password other : List UInt8}
    (same : ∀ cost salt, (digestOf password cost salt).result = (digestOf other cost salt).result)
    (hashed : String) : (verify password hashed).result = (verify other hashed).result := by
  cases parsed : HashString.parse hashed with
  | error error => rw [verify_of_error password parsed, verify_of_error other parsed]
  | ok parts =>
      obtain ⟨digest, digested⟩ := digest_of_succeeds password parts.cost parts.salt
      obtain ⟨otherDigest, otherDigested⟩ := digest_of_succeeds other parts.cost parts.salt
      have equal : digest = otherDigest := by
        have results := same parts.cost parts.salt
        rw [digested, otherDigested] at results
        exact Except.ok.inj results
      rw [verify_of_parts parsed digested, verify_of_parts parsed otherDigested, equal]
      rfl

theorem interchangeable_of_same_key_bytes {password other : List UInt8}
    (same : SameKeyBytes password other) : Interchangeable password other := by
  have digests :
      ∀ cost salt, (digestOf password cost salt).result = (digestOf other cost salt).result := by
    intro cost salt
    rw [digest_of_eq, digest_of_eq, key_of_password, key_of_password]
    exact digest_under_key_congr cost salt same
  exact ⟨digests, verify_congr digests⟩

theorem key_byte (password : List UInt8) (position : Nat) (bounded : position < 72) :
    endless (password.take (min password.length 72) ++ [0]) position =
      endless (password ++ [0]) position := by
  by_cases short : password.length ≤ 72
  · rw [Nat.min_eq_left short, List.take_length]
  · have taken : position < (password.take (min password.length 72)).length := by
      rw [List.length_take]
      omega
    rw [endless_append_of_lt _ _ position taken, endless_append_of_lt _ _ position (by omega),
      List.getElem_take]

theorem zero_before_copies (password : List UInt8) (count : Nat) :
    (List.replicate count (0 :: password)).flatten ++ [0] =
      0 :: (List.replicate count (password ++ [0])).flatten := by
  -- Each zero byte is counted to the copy before it.
  induction count with
  | zero => rfl
  | succ count ih =>
      rw [List.replicate_succ, List.flatten_cons, List.append_assoc, ih, List.replicate_succ,
        List.flatten_cons]
      simp

/-- A password, a zero byte and the password again have the repetition of the password alone. -/
theorem copies_same_key_bytes (password : List UInt8) (count : Nat) :
    SameKeyBytes password (password ++ (List.replicate count (0 :: password)).flatten) := by
  intro position bounded
  have copies : password ++ (List.replicate count (0 :: password)).flatten ++ [0] =
      (List.replicate (count + 1) (password ++ [0])).flatten := by
    rw [List.append_assoc, zero_before_copies, List.replicate_succ, List.flatten_cons]
    simp
  rw [key_byte password position bounded, key_byte _ position bounded, copies, endless_copies]

theorem prefix_same_key_bytes (password : List UInt8) :
    SameKeyBytes password (password.take 72) := by
  intro position bounded
  rw [take_significant, take_significant, List.take_take, Nat.min_self]

theorem long_password_key (password : List UInt8) (long : 72 ≤ password.length) (position : Nat)
    (bounded : position < 72) :
    endless (keyOfPassword password) position = endless (password.take 72) position := by
  have taken : position < (password.take 72).length := by
    rw [List.length_take]
    omega
  rw [endless_of_lt _ position taken]
  exact endless_append_of_lt _ _ position taken

/-- Passwords with the same 72 key bytes are interchangeable: a password with its first
72 bytes, and with itself followed by any number of copies that a zero byte comes
before. From 72 bytes on the closing zero byte takes no part. -/
theorem interchangeable_passwords :
    (∀ password other, SameKeyBytes password other → Interchangeable password other) ∧
    (∀ password, Interchangeable password (password.take 72)) ∧
    (∀ password count,
      Interchangeable password (password ++ (List.replicate count (0 :: password)).flatten)) ∧
    ∀ password cost salt, 72 ≤ password.length →
      (digestOf password cost salt).result = digestUnderKey (password.take 72) cost salt := by
  refine ⟨?_, ?_, ?_, ?_⟩
  · intro password other same
    exact interchangeable_of_same_key_bytes same
  · intro password
    exact interchangeable_of_same_key_bytes (prefix_same_key_bytes password)
  · intro password count
    exact interchangeable_of_same_key_bytes (copies_same_key_bytes password count)
  · intro password cost salt long
    rw [digest_of_eq]
    exact digest_under_key_congr cost salt (long_password_key password long)

theorem interchangeable_with_copy :
    SameKeyBytes [0x61] [0x61, 0, 0x61] ∧ Interchangeable [0x61] [0x61, 0, 0x61] ∧
      72 ≤ (List.replicate 73 (0x61 : UInt8)).length ∧
      (digestOf (List.replicate 73 0x61) .default ⟨Vector.replicate 16 0⟩).result =
        digestUnderKey ((List.replicate 73 0x61).take 72) .default ⟨Vector.replicate 16 0⟩ := by
  obtain ⟨interchangeable, _, _, unterminated⟩ := interchangeable_passwords
  have same : SameKeyBytes [0x61] [0x61, 0, 0x61] := by
    unfold SameKeyBytes
    decide
  have long : 72 ≤ (List.replicate 73 (0x61 : UInt8)).length := by decide
  exact ⟨same, interchangeable _ _ same, long, unterminated _ _ _ long⟩

def startingSubkeys (password : List UInt8) : Vector UInt32 18 :=
  (CipherState.initial.addKey (keyOfPassword password)).subkeys

theorem endless_terminator (bytes : List UInt8) : endless (bytes ++ [0]) bytes.length = 0 := by
  have inside : bytes.length < (bytes ++ [0]).length := by simp
  rw [endless_of_lt _ _ inside]
  simp

section

variable {bytes other : List UInt8}
  (same : ∀ position < 72, endless (bytes ++ [0]) position = endless (other ++ [0]) position)

include same

theorem not_shorter (otherFits : other.length ≤ 72) (noZero : 0 ∉ other) :
    other.length ≤ bytes.length := by
  by_contra shorter
  -- The closing zero byte of the shorter sequence stands where the longer one has a
  -- byte of its own.
  have inside : bytes.length < other.length := Nat.not_le.mp shorter
  have zero := same bytes.length (by omega)
  rw [endless_terminator, endless_append_of_lt _ _ _ inside] at zero
  exact noZero (zero ▸ List.getElem_mem inside)

theorem eq_of_same_length (fits : bytes.length ≤ 72) (sameLength : bytes.length = other.length) :
    bytes = other := by
  apply List.ext_getElem sameLength
  intro position inside otherInside
  have byte := same position (by omega)
  rwa [endless_append_of_lt _ _ _ inside, endless_append_of_lt _ _ _ otherInside] at byte

end

theorem significant_eq_of_key_bytes (password other : List UInt8)
    (comparable : (0 ∉ password ∧ 0 ∉ other) ∨ password.length = other.length)
    (same : ∀ position < 72,
      endless (keyOfPassword password) position = endless (keyOfPassword other) position) :
    password.take 72 = other.take 72 := by
  have fits : (password.take 72).length ≤ 72 := List.length_take_le 72 password
  have otherFits : (other.take 72).length ≤ 72 := List.length_take_le 72 other
  apply eq_of_same_length same fits
  rcases comparable with ⟨noZero, otherNoZero⟩ | sameLength
  · apply Nat.le_antisymm
    · exact not_shorter (fun position bounded => (same position bounded).symm) fits
        (fun member => noZero (List.mem_of_mem_take member))
    · exact not_shorter same otherFits (fun member => otherNoZero (List.mem_of_mem_take member))
  · rw [List.length_take, List.length_take, sameLength]

/-- The starting subkeys give away all that takes part of a password, as long as no zero
bytes of its own can be taken for the closing one or the length is known. Short
passwords are then told apart whole. -/
theorem starting_subkeys_tell_passwords_apart :
    (∀ password other, (0 ∉ password ∧ 0 ∉ other) ∨ password.length = other.length →
      startingSubkeys password = startingSubkeys other →
      password.take (min password.length 72) = other.take (min other.length 72)) ∧
    ∀ password other, (0 ∉ password ∧ 0 ∉ other) ∨ password.length = other.length →
      password.length ≤ 72 → other.length ≤ 72 → password ≠ other →
      startingSubkeys password ≠ startingSubkeys other := by
  have significant : ∀ password other, (0 ∉ password ∧ 0 ∉ other) ∨ password.length = other.length →
      startingSubkeys password = startingSubkeys other → password.take 72 = other.take 72 := by
    intro password other comparable same
    apply significant_eq_of_key_bytes password other comparable
    exact CipherState.initial.streams_agree_of_add_key same
  refine ⟨?_, ?_⟩
  · intro password other comparable same
    rw [take_significant, take_significant]
    exact significant password other comparable same
  · intro password other comparable fits otherFits different same
    have taken := significant password other comparable same
    rw [List.take_of_length_le fits, List.take_of_length_le otherFits] at taken
    exact different taken

theorem starting_subkeys_of_truncated_password :
    (0 ∉ List.replicate 72 (0x61 : UInt8) ∧ 0 ∉ List.replicate 73 (0x61 : UInt8)) ∧
      startingSubkeys (List.replicate 72 0x61) = startingSubkeys (List.replicate 73 0x61) ∧
      (List.replicate 72 (0x61 : UInt8)).take 72 = (List.replicate 73 (0x61 : UInt8)).take 72 ∧
      ([0, 0x61] : List UInt8).length = ([0x61, 0] : List UInt8).length ∧
      startingSubkeys [0, 0x61] ≠ startingSubkeys [0x61, 0] := by
  have noZero : 0 ∉ List.replicate 72 (0x61 : UInt8) ∧ 0 ∉ List.replicate 73 (0x61 : UInt8) := by
    decide
  have same : startingSubkeys (List.replicate 72 0x61) = startingSubkeys (List.replicate 73 0x61) :=
    rfl
  obtain ⟨significant, apart⟩ := starting_subkeys_tell_passwords_apart
  exact ⟨noZero, same, significant _ _ (.inl noZero) same, rfl,
    apart _ _ (.inr rfl) (by decide) (by decide) (by decide)⟩

end Bcrypt
