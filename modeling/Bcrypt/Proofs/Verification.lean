import Bcrypt.Verification
import Bcrypt.Proofs.HashString
import Bcrypt.Proofs.PasswordDigest

/-!
# What a verification answers

A verification answers whether the password has the digest that the hash string holds,
under the cost and the salt of that string; all else follows from how hash strings read
back. So a hash string accepts its own password, and any other one exactly if both have
the same digest.
-/

set_option autoImplicit false

namespace Bcrypt

theorem digest_of_succeeds (password : List UInt8) (cost : Cost) (salt : Salt) :
    ∃ digest, digestOf password cost salt = ⟨.ok digest, digestLog password.length cost⟩ := by
  obtain ⟨digest, succeeded, _⟩ := under_key_is_reference (keyOfPassword password) cost salt
  exact ⟨digest, by rw [digest_of_eq, succeeded]⟩

section

variable {password : List UInt8} {parts : HashString} {digest : Digest}

theorem digest_matches_eq
    (digested : digestOf password parts.cost parts.salt =
      ⟨.ok digest, digestLog password.length parts.cost⟩) :
    digestMatches password parts =
      ⟨.ok (decide (digest = parts.digest)), digestLog password.length parts.cost⟩ := by
  rw [digestMatches, digested]
  exact Outcome.bind_pure_of_ok rfl _

theorem verify_of_parts {hashed : String} (parsed : HashString.parse hashed = .ok parts)
    (digested : digestOf password parts.cost parts.salt =
      ⟨.ok digest, digestLog password.length parts.cost⟩) :
    verify password hashed =
      Outcome.within "verify" ⟨.ok (decide (digest = parts.digest)),
        digestLog password.length parts.cost ++
          [⟨[], .verified parts.version parts.cost (decide (digest = parts.digest))⟩]⟩ := by
  rw [verify, parsed, Outcome.of_except_ok_bind, digest_matches_eq digested, Outcome.bind_of_ok rfl]
  rfl

theorem verify_of_own_parts {hasher : Hasher} {hashed : String}
    (parsed : HashString.parse hashed = .ok parts) (sameCost : parts.cost = hasher.cost)
    (sameSalt : parts.salt = hasher.salt)
    (digested : digestOf password parts.cost parts.salt =
      ⟨.ok digest, digestLog password.length parts.cost⟩) :
    hasher.verify password hashed =
      ⟨.ok (decide (digest = parts.digest)), digestLog password.length parts.cost⟩ := by
  rw [Hasher.verify, parsed, Outcome.of_except_ok_bind, if_pos ⟨sameCost, sameSalt⟩,
    digest_matches_eq digested]

theorem hasher_hash_eq {hasher : Hasher}
    (digested : digestOf password hasher.cost hasher.salt =
      ⟨.ok digest, digestLog password.length hasher.cost⟩) :
    hasher.hash password =
      ⟨.ok (HashString.print ⟨.default, hasher.cost, hasher.salt, digest⟩),
        digestLog password.length hasher.cost⟩ := by
  rw [Hasher.hash, digested]
  exact Outcome.bind_pure_of_ok rfl _

end

theorem verify_of_error (password : List UInt8) {hashed : String} {error : Error}
    (refused : HashString.parse hashed = .error error) :
    verify password hashed = ⟨.error error, []⟩ := by
  rw [verify, refused, Outcome.of_except_error_bind]
  rfl

theorem make_of_range (cost : Nat) (salt : Salt) (least : 4 ≤ cost) (greatest : cost ≤ 31) :
    Hasher.make cost salt = .ok ⟨⟨cost, least, greatest⟩, salt⟩ := by
  rw [Hasher.make, Cost.of_nat_value ⟨cost, least, greatest⟩]
  rfl

theorem own_hash_answers (hasher : Hasher) (password other : List UInt8) (digest : Digest)
    (digested : digestOf password hasher.cost hasher.salt =
      ⟨.ok digest, digestLog password.length hasher.cost⟩) :
    let hashed := HashString.print ⟨.default, hasher.cost, hasher.salt, digest⟩
    ∃ matched, (verify other hashed).result = .ok matched ∧
      (hasher.verify other hashed).result = .ok matched ∧
      (matched = true ↔
        (digestOf other hasher.cost hasher.salt).result =
          (digestOf password hasher.cost hasher.salt).result) := by
  intro hashed
  obtain ⟨otherDigest, otherDigested⟩ := digest_of_succeeds other hasher.cost hasher.salt
  have parsed : HashString.parse hashed = .ok ⟨.default, hasher.cost, hasher.salt, digest⟩ :=
    HashString.parse_print _
  refine ⟨decide (otherDigest = digest), ?_, ?_, ?_⟩
  · rw [verify_of_parts parsed otherDigested]
    rfl
  · rw [verify_of_own_parts parsed rfl rfl otherDigested]
  · rw [digested, otherDigested, decide_eq_true_iff]
    exact ⟨congrArg Except.ok, Except.ok.inj⟩

theorem hasher_makes_own_hash (hasher : Hasher) (password : List UInt8) :
    ∃ hashed, (hasher.hash password).result = .ok hashed ∧
      (∃ parts, HashString.parse hashed = .ok parts) ∧
      (∀ other, ∃ matched, (verify other hashed).result = .ok matched ∧
        (hasher.verify other hashed).result = .ok matched ∧
        (matched = true ↔
          (digestOf other hasher.cost hasher.salt).result =
            (digestOf password hasher.cost hasher.salt).result)) ∧
      (verify password hashed).result = .ok true ∧
      (hasher.verify password hashed).result = .ok true := by
  obtain ⟨digest, digested⟩ := digest_of_succeeds password hasher.cost hasher.salt
  have answers := fun other => own_hash_answers hasher password other digest digested
  refine ⟨_, by rw [hasher_hash_eq digested], ⟨_, HashString.parse_print _⟩, answers, ?_⟩
  obtain ⟨matched, free, bound, answer⟩ := answers password
  obtain rfl : matched = true := answer.mpr rfl
  exact ⟨free, bound⟩

theorem hash_password_of_make {cost : Nat} {drawn : Salt} {hasher : Hasher}
    (made : Hasher.make cost drawn = .ok hasher) (password : List UInt8) :
    hashPassword drawn password cost = hasher.hash password := by
  rw [hashPassword, made, Outcome.of_except_ok_bind]

/-- A password can be hashed at every supported cost under every salt. The hash string
made of it answers `true` to exactly the passwords with the same digest, to itself in
particular, whether the hasher is asked or not. No other hash string comes from a
password under a salt that was drawn for it. -/
theorem hash_then_verify (password : List UInt8) (cost : Nat) (salt : Salt) :
    (∀ (least : 4 ≤ cost) (greatest : cost ≤ 31), ∃ hasher hashed,
      Hasher.make cost salt = .ok hasher ∧ (hasher.hash password).result = .ok hashed ∧
      (hashPassword salt password cost).result = .ok hashed ∧
      (∀ other, ∃ matched, (verify other hashed).result = .ok matched ∧
        (hasher.verify other hashed).result = .ok matched ∧
        (matched = true ↔ (digestOf other ⟨cost, least, greatest⟩ salt).result =
          (digestOf password ⟨cost, least, greatest⟩ salt).result)) ∧
      (verify password hashed).result = .ok true ∧
      (hasher.verify password hashed).result = .ok true) ∧
    ∀ hashed, (hashPassword salt password cost).result = .ok hashed →
      (∃ parts, HashString.parse hashed = .ok parts) ∧
      (verify password hashed).result = .ok true := by
  constructor
  · intro least greatest
    have made := make_of_range cost salt least greatest
    obtain ⟨hashed, produced, _, answers⟩ :=
      hasher_makes_own_hash ⟨⟨cost, least, greatest⟩, salt⟩ password
    refine ⟨_, hashed, made, produced, ?_, answers⟩
    rw [hash_password_of_make made, produced]
  · intro hashed produced
    cases made : Hasher.make cost salt with
    | error error =>
        rw [hashPassword, made, Outcome.of_except_error_bind] at produced
        contradiction
    | ok hasher =>
        obtain ⟨own, fromHasher, parsed, _, accepted, _⟩ := hasher_makes_own_hash hasher password
        rw [hash_password_of_make made, fromHasher] at produced
        obtain rfl := Except.ok.inj produced
        exact ⟨parsed, accepted⟩

theorem hash_then_verify_at_least_cost :
    4 ≤ 4 ∧ 4 ≤ 31 ∧ ∃ hashed,
      (hashPassword ⟨Vector.replicate 16 0⟩ [0x61] 4).result = .ok hashed ∧
      (∃ parts, HashString.parse hashed = .ok parts) ∧
      (verify [0x61] hashed).result = .ok true := by
  obtain ⟨_, hashed, _, _, produced, _⟩ :=
    (hash_then_verify [0x61] 4 ⟨Vector.replicate 16 0⟩).1 (by decide) (by decide)
  exact ⟨by decide, by decide, hashed, produced,
    (hash_then_verify [0x61] 4 ⟨Vector.replicate 16 0⟩).2 hashed produced⟩

end Bcrypt
