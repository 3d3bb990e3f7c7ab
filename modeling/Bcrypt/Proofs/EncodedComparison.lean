import Bcrypt.Proofs.HashString.Respelling
import Bcrypt.Proofs.Hashing

/-!
# Comparing digests as texts

A verification compares bytes. Hashing the password under the cost and the salt that
stand in the hash string, and comparing the text of the digest with the one in the hash
string, comes to the same, provided the spare bits of its last symbol are cleared first.
All spellings of a hash string therefore get the same answer.
-/

set_option autoImplicit false

namespace Bcrypt

open HashString

theorem Digest.encode_bytes_inj (digest other : Digest) :
    Text.bytes digest.encode = Text.bytes other.encode ↔ digest = other := by
  rw [encode, encode, Radix64.encode_bytes_inj, Vector.toList_inj, Digest.ext_iff]

section

variable {text : String} {parts : HashString} (read : parse text = .ok parts)

include read

theorem fields_accepted :
    checkInputs (costField text) (saltField text) = .ok (parts.cost, parts.salt) := by
  rw [cost_field_of_parse read]
  exact check_of_salt parts.cost (salt_field_of_parse read)

theorem verify_by_text (password : List UInt8) :
    ∃ encoded, (hash password (costField text) (saltField text)).result = .ok encoded ∧
      (verify password text).result =
        .ok (decide (Text.bytes encoded = (digestField text).modify 30 (clearSymbol 2))) := by
  obtain ⟨digest, digested⟩ := digest_of_succeeds password parts.cost parts.salt
  refine ⟨digest.encode, ?_, ?_⟩
  · rw [hash_of_accepted (fields_accepted read) digested]
  · rw [verify_of_parts read digested, cleared_digest_of_parse read]
    exact congrArg Except.ok
      (decide_eq_decide.mpr (Digest.encode_bytes_inj digest parts.digest).symm)

theorem verify_of_other_version (password : List UInt8) {other : String} {version : Version}
    (otherRead : parse other = .ok { parts with version := version }) :
    (verify password other).result = (verify password text).result := by
  obtain ⟨digest, digested⟩ := digest_of_succeeds password parts.cost parts.salt
  rw [verify_of_parts read digested, verify_of_parts otherRead digested]
  rfl

end

/-- A text that does not read is answered with the reader's error. Any other text is
answered as if the password were hashed under the cost and the salt that stand in it and
the result compared with the digest that stands in it, the two spare bits of whose last
symbol do not count. Tags and spare bits never change the answer. -/
theorem verify_compares_texts (password : List UInt8) (text : String) :
    (∀ error, parse text = .error error → (verify password text).result = .error error) ∧
    (∀ parts, parse text = .ok parts →
      ∃ encoded, (hash password (costField text) (saltField text)).result = .ok encoded ∧
        (verify password text).result =
          .ok (decide (Text.bytes encoded = (digestField text).modify 30 (clearSymbol 2)))) ∧
    ∀ parts other, parse text = .ok parts → Respelled text other →
      (∃ otherParts, parse other = .ok otherParts) ∧
        (verify password other).result = (verify password text).result := by
  refine ⟨?_, ?_, ?_⟩
  · intro error refused
    rw [verify_of_error password refused]
  · intro parts read
    exact verify_by_text read password
  · intro parts other read respelled
    obtain ⟨version, otherRead⟩ := parse_respelled read respelled
    exact ⟨⟨_, otherRead⟩, verify_of_other_version read password otherRead⟩

/-- An empty text, a hash string, and the same with another tag and all six spare bits set. -/
theorem verify_compares_texts_all_spare_bits :
    let text := "$2a$06$If6bvum7DFjUnE9p2uDeDu0YHzrHM6tf.iqN8.yx.jNN1ILEf7h0i"
    let other := "$2y$06$If6bvum7DFjUnE9p2uDeD90YHzrHM6tf.iqN8.yx.jNN1ILEf7h0l"
    (parse "" = .error (.malformedHash "hash string too short") ∧
      (verify [0x61, 0x62, 0x63] "").result = .error (.malformedHash "hash string too short")) ∧
    (∃ parts, parse text = .ok parts) ∧ Respelled text other ∧
    (∃ encoded,
      (hash [0x61, 0x62, 0x63] 6 (Text.bytes "If6bvum7DFjUnE9p2uDeDu")).result = .ok encoded ∧
      (verify [0x61, 0x62, 0x63] text).result =
        .ok (decide (Text.bytes encoded = Text.bytes "0YHzrHM6tf.iqN8.yx.jNN1ILEf7h0i"))) ∧
    (∃ otherParts, parse other = .ok otherParts) ∧
      (verify [0x61, 0x62, 0x63] other).result = (verify [0x61, 0x62, 0x63] text).result := by
  intro text other
  have refused : parse "" = .error (.malformedHash "hash string too short") := by decide +kernel
  have readable : (parse text).isOk = true := by decide +kernel
  have changed : Text.bytes other =
      (((Text.bytes text).set 2 'y'.toUInt8).set 28 '9'.toUInt8).set 59 'l'.toUInt8 := by
    decide +kernel
  have tag : ((Text.bytes other).drop 1).take 2 = Text.bytes Version.v2y.tag := by decide +kernel
  have respelled : Respelled text other :=
    respelled_of_set changed tag (by decide +kernel) (by decide +kernel)
  have cost : costField text = 6 := by decide +kernel
  have salt : saltField text = Text.bytes "If6bvum7DFjUnE9p2uDeDu" := by decide +kernel
  have digest : (digestField text).modify 30 (clearSymbol 2) =
      Text.bytes "0YHzrHM6tf.iqN8.yx.jNN1ILEf7h0i" := by
    decide +kernel
  obtain ⟨parts, read⟩ : ∃ parts, parse text = .ok parts := by
    cases read : parse text with
    | error error =>
        rw [read] at readable
        contradiction
    | ok parts => exact ⟨parts, rfl⟩
  have error := (verify_compares_texts [0x61, 0x62, 0x63] "").1 _ refused
  obtain ⟨_, answers, spellings⟩ := verify_compares_texts [0x61, 0x62, 0x63] text
  have answer := answers parts read
  rw [cost, salt, digest] at answer
  exact ⟨⟨refused, error⟩, ⟨parts, read⟩, respelled, answer, spellings parts other read respelled⟩

end Bcrypt
