import Bcrypt.Proofs.Hashing
import Bcrypt.Proofs.Ownership

/-!
# What a log gives away

A log shows the length of a password that is longer than its significant part, and it
shows whether a password matched. Two passwords that agree in this leave the same log
whatever is done with them: hashing ignores even the salt, and two verifications differ
in the answer alone, which the last entry repeats.
-/

set_option autoImplicit false

namespace Bcrypt

section

variable (password : List UInt8)

theorem digesting_log (cost : Cost) (salt : Salt) :
    (digestOf password cost salt).log = digestLog password.length cost := by
  rw [digest_of_eq]

theorem hash_log (value : Nat) (saltText : List UInt8) :
    (hash password value saltText).log =
      match checkInputs value saltText with
      | .error _ => []
      | .ok (cost, _) => digestLog password.length cost := by
  cases checked : checkInputs value saltText with
  | error error => rw [hash_of_refused checked]
  | ok inputs =>
      rcases digest_of_succeeds password inputs.1 inputs.2 with ⟨digest, digested⟩
      rw [hash_of_accepted checked digested]

theorem hash_into_log (value : Nat) (saltText buffer : List UInt8) :
    (hashInto password value saltText buffer).1.log =
      match checkInputs value saltText with
      | .error _ => []
      | .ok (cost, _) => if buffer.length < 31 then [] else digestLog password.length cost := by
  cases checked : checkInputs value saltText with
  | error error => rw [hash_into_of_refused checked]
  | ok inputs =>
      by_cases small : buffer.length < 31
      · rw [hash_into_of_small checked small]
        exact (if_pos small).symm
      · rcases digest_of_succeeds password inputs.1 inputs.2 with ⟨digest, digested⟩
        rw [hash_into_of_fitting checked digested (Nat.not_lt.mp small)]
        exact (if_neg small).symm

theorem hasher_hash_log (hasher : Hasher) :
    (hasher.hash password).log = digestLog password.length hasher.cost := by
  rcases digest_of_succeeds password hasher.cost hasher.salt with ⟨digest, digested⟩
  rw [hasher_hash_eq digested]

theorem hash_password_log (drawn : Salt) (value : Nat) :
    (hashPassword drawn password value).log =
      match Hasher.make value drawn with
      | .error _ => []
      | .ok hasher => digestLog password.length hasher.cost := by
  cases made : Hasher.make value drawn with
  | error error => rw [hashPassword, made, Outcome.of_except_error_bind]
  | ok hasher => rw [hash_password_of_make made, hasher_hash_log]

theorem hasher_verify_log (hasher : Hasher) (text : String) :
    (hasher.verify password text).log =
      match HashString.parse text with
      | .error _ => []
      | .ok parts =>
          if parts.cost = hasher.cost ∧ parts.salt = hasher.salt
          then digestLog password.length parts.cost
          else [⟨[], .foreignHash⟩] := by
  cases read : HashString.parse text with
  | error error => rw [hasher_verify_of_error password read]
  | ok parts =>
      by_cases own : parts.cost = hasher.cost ∧ parts.salt = hasher.salt
      · rcases digest_of_succeeds password parts.cost parts.salt with ⟨digest, digested⟩
        rw [verify_of_own_parts read own.1 own.2 digested]
        exact (if_pos own).symm
      · rw [hasher_verify_of_foreign password ⟨parts, read, own⟩]
        exact (if_neg own).symm

end

def SameReportedLength (password other : List UInt8) : Prop :=
  (password.length ≤ 72 ∧ other.length ≤ 72) ∨ password.length = other.length

/-- The outcomes are equal but for the answers, and each answer also stands in the last
entry. An error leaves no difference at all. -/
inductive SameButAnswer : Outcome Bool → Outcome Bool → Prop where
  | refused (error : Error) (log : List Entry) :
      SameButAnswer ⟨.error error, log⟩ ⟨.error error, log⟩
  | answered (before : List Entry) (scopes : List String) (version : Version) (cost : Cost)
      (matched other : Bool) :
      SameButAnswer ⟨.ok matched, before ++ [⟨scopes, .verified version cost matched⟩]⟩
        ⟨.ok other, before ++ [⟨scopes, .verified version cost other⟩]⟩

section

variable {password other : List UInt8} (same : SameReportedLength password other)

include same

theorem digest_log_congr (cost : Cost) :
    digestLog password.length cost = digestLog other.length cost := by
  unfold digestLog
  cases same with
  | inl short =>
      have unreported : ¬Limits.significantSize < password.length := Nat.not_lt.mpr short.1
      have otherUnreported : ¬Limits.significantSize < other.length := Nat.not_lt.mpr short.2
      rw [if_neg unreported, if_neg otherUnreported]
  | inr sameLength => rw [sameLength]

theorem verify_same_but_answer (text : String) :
    SameButAnswer (verify password text) (verify other text) := by
  cases read : HashString.parse text with
  | error error =>
      rw [verify_of_error password read, verify_of_error other read]
      exact .refused error []
  | ok parts =>
      rcases digest_of_succeeds password parts.cost parts.salt with ⟨digest, digested⟩
      rcases digest_of_succeeds other parts.cost parts.salt with ⟨otherDigest, otherDigested⟩
      rw [verify_of_parts read digested, verify_of_parts read otherDigested,
        digest_log_congr same parts.cost]
      -- Both logs have one beginning, and their last entries are in the same scope.
      unfold Outcome.within
      simp only [List.map_append, List.map_cons, List.map_nil]
      exact .answered _ _ parts.version parts.cost _ _

/-- Two passwords for which the same length is reported, or none, are not told apart by
any log, except by the answer of a verification. -/
theorem logs_tell_length_and_answer :
    (∀ cost salt otherSalt,
      (digestOf password cost salt).log = (digestOf other cost otherSalt).log) ∧
    (∀ value saltText, (hash password value saltText).log = (hash other value saltText).log) ∧
    (∀ value saltText buffer,
      (hashInto password value saltText buffer).1.log =
        (hashInto other value saltText buffer).1.log) ∧
    (∀ hasher : Hasher, (hasher.hash password).log = (hasher.hash other).log) ∧
    (∀ drawn value,
      (hashPassword drawn password value).log = (hashPassword drawn other value).log) ∧
    (∀ (hasher : Hasher) text, (hasher.verify password text).log = (hasher.verify other text).log) ∧
    ∀ text, SameButAnswer (verify password text) (verify other text) := by
  have reports := digest_log_congr same
  refine ⟨?_, ?_, ?_, ?_, ?_, ?_, verify_same_but_answer same⟩
  · intro cost salt otherSalt
    rw [digesting_log, digesting_log, reports]
  · intro value saltText
    simp only [hash_log, reports]
  · intro value saltText buffer
    simp only [hash_into_log, reports]
  · intro hasher
    rw [hasher_hash_log, hasher_hash_log, reports]
  · intro drawn value
    simp only [hash_password_log, reports]
  · intro hasher text
    simp only [hasher_verify_log, reports]

end

/-- Two passwords of 73 bytes each, whose length is reported. -/
theorem logs_of_truncated_passwords :
    let password : List UInt8 := List.replicate 73 0x61
    let other : List UInt8 := List.replicate 73 0x62
    let text := "$2a$06$If6bvum7DFjUnE9p2uDeDu0YHzrHM6tf.iqN8.yx.jNN1ILEf7h0i"
    SameReportedLength password other ∧
      (digestOf password .default ⟨Vector.replicate 16 0⟩).log =
        (digestOf other .default ⟨Vector.replicate 16 1⟩).log ∧
      ((⟨.default, ⟨Vector.replicate 16 0⟩⟩ : Hasher).verify password text).log =
        ((⟨.default, ⟨Vector.replicate 16 0⟩⟩ : Hasher).verify other text).log ∧
      SameButAnswer (verify password text) (verify other text) := by
  intro password other text
  have same : SameReportedLength password other := .inr rfl
  rcases logs_tell_length_and_answer same with ⟨digests, _, _, _, _, bound, free⟩
  exact ⟨same, digests _ _ _, bound _ text, free text⟩

end Bcrypt
