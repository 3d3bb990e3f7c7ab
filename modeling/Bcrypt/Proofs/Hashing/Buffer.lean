import Bcrypt.Proofs.Hashing

/-!
# Hashing into a buffer

A buffer receives the text that hashing gives, at its beginning, and keeps all other
bytes. It is looked at only when cost and salt have been accepted, so their errors come
before its own, and a call that fails leaves it as it was.
-/

set_option autoImplicit false

namespace Bcrypt

structure WrittenInto (written before after : List UInt8) : Prop where
  length : after.length = before.length
  text : after.take written.length = written
  rest : after.drop written.length = before.drop written.length

theorem overwrite_written_into {written buffer : List UInt8}
    (fits : written.length ≤ buffer.length) :
    WrittenInto written buffer (overwrite buffer written) := by
  constructor
  · rw [overwrite, List.length_append, List.length_drop]
    omega
  · rw [overwrite, List.take_left]
  · rw [overwrite, List.drop_left]

section

variable {password saltText : List UInt8} {value : Nat}

theorem check_of_hash_error {error : Error}
    (failed : (hash password value saltText).result = .error error) :
    checkInputs value saltText = .error error := by
  cases checked : checkInputs value saltText with
  | error refused =>
      rw [hash_of_refused checked] at failed
      exact congrArg Except.error (Except.error.inj failed)
  | ok inputs =>
      rcases digest_of_succeeds password inputs.1 inputs.2 with ⟨digest, digested⟩
      rw [hash_of_accepted checked digested] at failed
      contradiction

theorem digested_of_hash {encoded : String}
    (hashed : (hash password value saltText).result = .ok encoded) :
    ∃ cost salt digest, checkInputs value saltText = .ok (cost, salt) ∧
      digestOf password cost salt = ⟨.ok digest, digestLog password.length cost⟩ ∧
      encoded = digest.encode := by
  cases checked : checkInputs value saltText with
  | error refused =>
      rw [hash_of_refused checked] at hashed
      contradiction
  | ok inputs =>
      rcases digest_of_succeeds password inputs.1 inputs.2 with ⟨digest, digested⟩
      rw [hash_of_accepted checked digested] at hashed
      exact ⟨inputs.1, inputs.2, digest, rfl, digested, (Except.ok.inj hashed).symm⟩

theorem hash_into_of_hash_error {error : Error}
    (failed : (hash password value saltText).result = .error error) (buffer : List UInt8) :
    hashInto password value saltText buffer = (⟨.error error, []⟩, buffer) :=
  hash_into_of_refused (check_of_hash_error failed) buffer

variable {encoded : String} (hashed : (hash password value saltText).result = .ok encoded)

include hashed

theorem encoded_length_of_hash : (Text.bytes encoded).length = 31 := by
  rcases digested_of_hash hashed with ⟨_, _, digest, _, _, rfl⟩
  exact digest.encode_length

theorem small_buffer_of_hash {buffer : List UInt8} (small : buffer.length < 31) :
    hashInto password value saltText buffer =
      (⟨.error (.bufferTooSmall 31 buffer.length), []⟩, buffer) := by
  rcases digested_of_hash hashed with ⟨_, _, _, accepted, _, _⟩
  exact hash_into_of_small accepted small

theorem fitting_buffer_of_hash {buffer : List UInt8} (fits : 31 ≤ buffer.length) :
    (hashInto password value saltText buffer).1.result = .ok 31 ∧
      WrittenInto (Text.bytes encoded) buffer (hashInto password value saltText buffer).2 := by
  have sized := encoded_length_of_hash hashed
  have written : WrittenInto (Text.bytes encoded) buffer (overwrite buffer (Text.bytes encoded)) :=
    overwrite_written_into (by rw [sized]; exact fits)
  rcases digested_of_hash hashed with ⟨_, _, digest, accepted, digested, rfl⟩
  rw [overwrite, sized] at written
  rw [hash_into_of_fitting accepted digested fits]
  exact ⟨rfl, written⟩

end

/-- A buffer is filled exactly if hashing succeeds and the buffer has room for
thirty-one bytes. It then begins with the hashed text and is otherwise as before. What
hashing refuses is refused for the same reason, be the buffer too small or not, and what
fails leaves the buffer alone. -/
theorem buffer_receives_hash (password : List UInt8) (value : Nat) (saltText buffer : List UInt8) :
    ((∃ count, (hashInto password value saltText buffer).1.result = .ok count) ↔
      (∃ encoded, (hash password value saltText).result = .ok encoded) ∧ 31 ≤ buffer.length) ∧
    (∀ encoded, (hash password value saltText).result = .ok encoded → 31 ≤ buffer.length →
      (hashInto password value saltText buffer).1.result = .ok 31 ∧
        (Text.bytes encoded).length = 31 ∧
        WrittenInto (Text.bytes encoded) buffer (hashInto password value saltText buffer).2) ∧
    (∀ error, (hash password value saltText).result = .error error →
      (hashInto password value saltText buffer).1.result = .error error) ∧
    (∀ encoded, (hash password value saltText).result = .ok encoded → buffer.length < 31 →
      (hashInto password value saltText buffer).1.result =
        .error (.bufferTooSmall 31 buffer.length)) ∧
    ∀ error, (hashInto password value saltText buffer).1.result = .error error →
      (hashInto password value saltText buffer).2 = buffer := by
  cases ended : (hash password value saltText).result with
  | error error => simp [hash_into_of_hash_error ended buffer]
  | ok encoded =>
      by_cases small : buffer.length < 31
      · have notFitting : ¬31 ≤ buffer.length := Nat.not_le.mpr small
        simp [small_buffer_of_hash ended small, notFitting]
      · have fits := Nat.not_lt.mp small
        have sized := encoded_length_of_hash ended
        rcases fitting_buffer_of_hash ended fits with ⟨succeeded, written⟩
        simp [succeeded, written, sized, fits, small]

/-- A cost out of range with a buffer of three bytes, and a valid cost and salt with a
buffer too small by one byte and a buffer with two bytes to spare. -/
theorem buffer_receives_hash_around_its_size :
    let saltText := Text.bytes "CCCCCCCCCCCCCCCCCCCCC."
    let short := List.replicate 30 (7 : UInt8)
    let long := List.replicate 33 (7 : UInt8)
    (Cost.ofNat 32 = .error (.invalidCost 32) ∧
      (hash [0x61] 32 saltText).result = .error (.invalidCost 32) ∧
      (hashInto [0x61] 32 saltText [1, 2, 3]).1.result = .error (.invalidCost 32) ∧
      (hashInto [0x61] 32 saltText [1, 2, 3]).2 = [1, 2, 3]) ∧
    ∃ encoded, (hash [0x61] 5 saltText).result = .ok encoded ∧
      short.length < 31 ∧ 31 ≤ long.length ∧
      (hashInto [0x61] 5 saltText short).1.result = .error (.bufferTooSmall 31 30) ∧
      (hashInto [0x61] 5 saltText short).2 = short ∧
      (hashInto [0x61] 5 saltText long).1.result = .ok 31 ∧
      WrittenInto (Text.bytes encoded) long (hashInto [0x61] 5 saltText long).2 := by
  intro saltText short long
  have outside : (hash [0x61] 32 saltText).result = .error (.invalidCost 32) := by
    rw [hash_of_refused (check_of_outside (by decide) saltText)]
  have read : Salt.decode saltText =
      .ok ⟨#v[0x10, 0x41, 0x04, 0x10, 0x41, 0x04, 0x10, 0x41, 0x04, 0x10, 0x41, 0x04, 0x10, 0x41,
        0x04, 0x10]⟩ := by
    decide +kernel
  have accepted := check_of_salt ⟨5, by decide, by decide⟩ read
  rcases digest_of_succeeds [0x61] ⟨5, by decide, by decide⟩ _ with ⟨digest, digested⟩
  have hashed : (hash [0x61] 5 saltText).result = .ok digest.encode := by
    rw [hash_of_accepted accepted digested]
  rcases buffer_receives_hash [0x61] 32 saltText [1, 2, 3] with ⟨_, _, refuses, _, leaves⟩
  rcases buffer_receives_hash [0x61] 5 saltText short with ⟨_, _, _, tooSmall, leavesShort⟩
  rcases buffer_receives_hash [0x61] 5 saltText long with ⟨_, fills, _⟩
  have refused := refuses _ outside
  have shortRefused := tooSmall _ hashed (by decide)
  have filled := fills _ hashed (by decide)
  exact ⟨⟨by decide, outside, refused, leaves _ refused⟩, digest.encode, hashed, by decide,
    by decide, shortRefused, leavesShort _ shortRefused, filled.1, filled.2.2⟩

end Bcrypt
