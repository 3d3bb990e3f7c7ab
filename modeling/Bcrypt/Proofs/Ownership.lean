import Bcrypt.Proofs.EncodedComparison

/-!
# Own and foreign hash strings

A hasher takes a hash string for its own if the string reads with the hasher's cost and
salt. It then answers as a verification without a hasher does. Any other hash string is
foreign and matches no password, and a text that does not read is refused either way.
Cost and salt are compared as they are read, so tags and spare bits never make a hash
string foreign, and a hash string has one hasher at most that can accept a password for
it.
-/

set_option autoImplicit false

namespace Bcrypt

open HashString (Respelled)

namespace Hasher

def Owns (hasher : Hasher) (text : String) : Prop :=
  ∃ parts, HashString.parse text = .ok parts ∧ parts.cost = hasher.cost ∧ parts.salt = hasher.salt

def FindsForeign (hasher : Hasher) (text : String) : Prop :=
  ∃ parts, HashString.parse text = .ok parts ∧
    ¬(parts.cost = hasher.cost ∧ parts.salt = hasher.salt)

section

variable {hasher : Hasher} {text : String} {parts : HashString}
  (read : HashString.parse text = .ok parts)

include read

theorem owns_iff : hasher.Owns text ↔ parts.cost = hasher.cost ∧ parts.salt = hasher.salt := by
  constructor
  · rintro ⟨others, otherRead, same⟩
    rw [read] at otherRead
    cases otherRead
    exact same
  · intro same
    exact ⟨parts, read, same⟩

theorem finds_foreign_iff : hasher.FindsForeign text ↔ ¬hasher.Owns text := by
  rw [owns_iff read]
  constructor
  · rintro ⟨others, otherRead, different⟩
    rw [read] at otherRead
    cases otherRead
    exact different
  · intro different
    exact ⟨parts, read, different⟩

end

theorem owner_unique {hasher other : Hasher} {text : String} (owns : hasher.Owns text)
    (otherOwns : other.Owns text) : other = hasher := by
  rcases owns with ⟨parts, read, sameCost, sameSalt⟩
  have same := (owns_iff read).mp otherOwns
  apply Hasher.ext
  · rw [← same.1, sameCost]
  · rw [← same.2, sameSalt]

theorem owns_respelled {hasher : Hasher} {text other : String} {parts : HashString}
    (read : HashString.parse text = .ok parts) (respelled : Respelled text other) :
    hasher.Owns other ↔ hasher.Owns text := by
  rcases HashString.parse_respelled read respelled with ⟨version, otherRead⟩
  rw [owns_iff read, owns_iff otherRead]

end Hasher

section

variable {hasher : Hasher} {text : String}

theorem hasher_verify_of_error (password : List UInt8) {error : Error}
    (refused : HashString.parse text = .error error) :
    hasher.verify password text = ⟨.error error, []⟩ := by
  rw [Hasher.verify, refused, Outcome.of_except_error_bind]

theorem hasher_verify_of_foreign (password : List UInt8) (foreign : hasher.FindsForeign text) :
    hasher.verify password text = ⟨.ok false, [⟨[], .foreignHash⟩]⟩ := by
  rcases foreign with ⟨parts, read, different⟩
  rw [Hasher.verify, read, Outcome.of_except_ok_bind, if_neg different]
  rfl

theorem hasher_verify_of_own (password : List UInt8) (owns : hasher.Owns text) :
    ∃ matched, (hasher.verify password text).result = .ok matched ∧
      (verify password text).result = .ok matched := by
  rcases owns with ⟨parts, read, sameCost, sameSalt⟩
  rcases digest_of_succeeds password parts.cost parts.salt with ⟨digest, digested⟩
  refine ⟨decide (digest = parts.digest), ?_, ?_⟩
  · rw [verify_of_own_parts read sameCost sameSalt digested]
  · rw [verify_of_parts read digested]
    rfl

theorem owns_of_accepted {password : List UInt8}
    (accepted : (hasher.verify password text).result = .ok true) : hasher.Owns text := by
  cases read : HashString.parse text with
  | error error =>
      rw [hasher_verify_of_error password read] at accepted
      contradiction
  | ok parts =>
      by_contra different
      rw [hasher_verify_of_foreign password
        ((Hasher.finds_foreign_iff read).mpr different)] at accepted
      contradiction

theorem hasher_verify_respelled (password : List UInt8) {other : String} {parts : HashString}
    (read : HashString.parse text = .ok parts) (respelled : Respelled text other) :
    (hasher.verify password other).result = (hasher.verify password text).result := by
  rcases HashString.parse_respelled read respelled with ⟨version, otherRead⟩
  have sameOwner : hasher.Owns other ↔ hasher.Owns text := Hasher.owns_respelled read respelled
  by_cases owns : hasher.Owns text
  · rcases hasher_verify_of_own password owns with ⟨matched, bound, free⟩
    rcases hasher_verify_of_own password (sameOwner.mpr owns) with
      ⟨otherMatched, otherBound, otherFree⟩
    rw [bound, otherBound, ← free, ← otherFree]
    exact verify_of_other_version read password otherRead
  · have foreign := (Hasher.finds_foreign_iff read).mpr owns
    have otherForeign := (Hasher.finds_foreign_iff otherRead).mpr (mt sameOwner.mp owns)
    rw [hasher_verify_of_foreign password foreign, hasher_verify_of_foreign password otherForeign]

end

/-- A hasher accepts a hash string that a hasher made exactly if both have the same cost
and salt and the password has the digest that the hash string was made of. -/
theorem made_hash_answers (maker : Hasher) (password : List UInt8) :
    ∃ hashed, (maker.hash password).result = .ok hashed ∧ ∀ (checker : Hasher) other, ∃ matched,
      (checker.verify other hashed).result = .ok matched ∧
      (matched = true ↔ checker.cost = maker.cost ∧ checker.salt = maker.salt ∧
        (digestOf other maker.cost maker.salt).result =
          (digestOf password maker.cost maker.salt).result) := by
  rcases digest_of_succeeds password maker.cost maker.salt with ⟨digest, digested⟩
  have read := HashString.parse_print ⟨.default, maker.cost, maker.salt, digest⟩
  refine ⟨_, by rw [hasher_hash_eq digested], ?_⟩
  intro checker other
  by_cases same : checker.cost = maker.cost ∧ checker.salt = maker.salt
  · -- Then it is the maker itself that checks.
    have sameHasher : checker = maker := Hasher.ext same.1 same.2
    rcases own_hash_answers maker password other digest digested with ⟨matched, _, bound, answer⟩
    refine ⟨matched, ?_, ?_⟩
    · rw [sameHasher, bound]
    · rw [answer, ← and_assoc, and_iff_right same]
  · have notOwn : ¬checker.Owns (HashString.print ⟨.default, maker.cost, maker.salt, digest⟩) := by
      rw [Hasher.owns_iff read]
      intro own
      exact same ⟨own.1.symm, own.2.symm⟩
    have foreign := (Hasher.finds_foreign_iff read).mpr notOwn
    refine ⟨false, ?_, ?_⟩
    · rw [hasher_verify_of_foreign other foreign]
    · rw [← and_assoc]
      exact iff_of_false Bool.false_ne_true fun both => same both.1

/-- With a hasher, a text that does not read gets the same error as without one, an own
hash string the same answer, and a foreign one `false`. So a hasher accepts no more than
is accepted without one, it treats all spellings of a hash string alike, and no other
hasher accepts any password for a hash string that it accepts one for. -/
theorem hasher_answers_for_own (hasher : Hasher) (password : List UInt8) (text : String) :
    (∀ error, HashString.parse text = .error error →
      (hasher.verify password text).result = .error error ∧
      (verify password text).result = .error error) ∧
    (hasher.Owns text → ∃ matched,
      (hasher.verify password text).result = .ok matched ∧
      (verify password text).result = .ok matched) ∧
    (hasher.FindsForeign text → (hasher.verify password text).result = .ok false) ∧
    ((hasher.verify password text).result = .ok true → (verify password text).result = .ok true) ∧
    (∀ parts other, HashString.parse text = .ok parts → Respelled text other →
      (hasher.Owns other ↔ hasher.Owns text) ∧
      (hasher.FindsForeign other ↔ hasher.FindsForeign text) ∧
      (hasher.verify password other).result = (hasher.verify password text).result) ∧
    ∀ second secondPassword, (hasher.verify password text).result = .ok true →
      (second.verify secondPassword text).result = .ok true → second = hasher := by
  refine ⟨?_, hasher_verify_of_own password, ?_, ?_, ?_, ?_⟩
  · intro error refused
    rw [hasher_verify_of_error password refused, verify_of_error password refused]
    exact ⟨rfl, rfl⟩
  · intro foreign
    rw [hasher_verify_of_foreign password foreign]
  · intro accepted
    rcases hasher_verify_of_own password (owns_of_accepted accepted) with ⟨matched, bound, free⟩
    rw [free, ← bound, accepted]
  · intro parts other read respelled
    rcases HashString.parse_respelled read respelled with ⟨version, otherRead⟩
    have sameOwner : hasher.Owns other ↔ hasher.Owns text := Hasher.owns_respelled read respelled
    refine ⟨sameOwner, ?_, hasher_verify_respelled password read respelled⟩
    rw [Hasher.finds_foreign_iff read, Hasher.finds_foreign_iff otherRead, sameOwner]
  · intro second secondPassword accepted secondAccepted
    exact Hasher.owner_unique (owns_of_accepted accepted) (owns_of_accepted secondAccepted)

/-- A text that does not read, a hash string with its own hasher and with one of another
cost, the same hash string with another tag and all spare bits set, and a hash string
that is accepted by its hasher and by the one that its own fields make. -/
theorem hasher_answers_for_own_at_cost_six :
    let text := "$2a$06$If6bvum7DFjUnE9p2uDeDu0YHzrHM6tf.iqN8.yx.jNN1ILEf7h0i"
    let other := "$2y$06$If6bvum7DFjUnE9p2uDeD90YHzrHM6tf.iqN8.yx.jNN1ILEf7h0l"
    let salt : Salt :=
      ⟨#v[0x2a, 0x1f, 0x1d, 0xc7, 0x0a, 0x3d, 0x14, 0x79, 0x56, 0xa4, 0x6f, 0xeb, 0xe3, 0x01,
        0x60, 0x17]⟩
    let hasher : Hasher := ⟨⟨6, by decide, by decide⟩, salt⟩
    let stranger : Hasher := ⟨⟨7, by decide, by decide⟩, salt⟩
    (HashString.parse "" = .error (.malformedHash "hash string too short") ∧
      (hasher.verify [0x61] "").result = .error (.malformedHash "hash string too short") ∧
      (verify [0x61] "").result = .error (.malformedHash "hash string too short")) ∧
    (hasher.Owns text ∧ ∃ matched,
      (hasher.verify [0x61] text).result = .ok matched ∧
      (verify [0x61] text).result = .ok matched) ∧
    (stranger.FindsForeign text ∧ (stranger.verify [0x61] text).result = .ok false) ∧
    (Respelled text other ∧ hasher.Owns other ∧ stranger.FindsForeign other ∧
      (hasher.verify [0x61] other).result = (hasher.verify [0x61] text).result) ∧
    ∃ hashed parts, (hasher.verify [0x61] hashed).result = .ok true ∧
      (verify [0x61] hashed).result = .ok true ∧ HashString.parse hashed = .ok parts ∧
      let again : Hasher := ⟨parts.cost, parts.salt⟩
      (again.verify [0x61] hashed).result = .ok true ∧ again = hasher := by
  intro text other salt hasher stranger
  have refused : HashString.parse "" = .error (.malformedHash "hash string too short") := by
    decide +kernel
  have read : HashString.parse text = .ok ⟨.v2a, hasher.cost, salt,
      ⟨#v[0xd9, 0xa2, 0x75, 0xb4, 0x93, 0xbc, 0xbe, 0x10, 0x24, 0xb0, 0xff, 0x80, 0xd3, 0x30, 0x25,
        0x3c, 0xfd, 0xca, 0x34, 0x68, 0x7d, 0x8f, 0x69]⟩⟩ := by
    decide +kernel
  have changed : Text.bytes other =
      (((Text.bytes text).set 2 'y'.toUInt8).set 28 '9'.toUInt8).set 59 'l'.toUInt8 := by
    decide +kernel
  have tag : ((Text.bytes other).drop 1).take 2 = Text.bytes Version.v2y.tag := by decide +kernel
  have respelled : Respelled text other :=
    HashString.respelled_of_set changed tag (by decide +kernel) (by decide +kernel)
  have owns : hasher.Owns text := ⟨_, read, rfl, rfl⟩
  have foreign : stranger.FindsForeign text := ⟨_, read, by decide⟩
  rcases hasher_makes_own_hash hasher [0x61] with ⟨hashed, _, ⟨parts, fields⟩, _, free, accepted⟩
  let again : Hasher := ⟨parts.cost, parts.salt⟩
  rcases hasher_answers_for_own hasher [0x61] "" with ⟨errors, _⟩
  rcases hasher_answers_for_own hasher [0x61] text with ⟨_, own, _, _, spellings, _⟩
  rcases hasher_answers_for_own stranger [0x61] text with ⟨_, _, others, _, strangerSpellings, _⟩
  rcases hasher_answers_for_own hasher [0x61] hashed with ⟨_, _, _, accepts, _, unique⟩
  rcases (hasher_answers_for_own again [0x61] hashed).2.1 ⟨parts, fields, rfl, rfl⟩ with
    ⟨matched, againAnswers, freeAnswers⟩
  rw [freeAnswers] at free
  rw [free] at againAnswers
  rcases spellings _ other read respelled with ⟨sameOwner, _, sameAnswer⟩
  have sameForeign := (strangerSpellings _ other read respelled).2.1
  exact ⟨⟨refused, errors _ refused⟩, ⟨owns, own owns⟩, ⟨foreign, others foreign⟩,
    ⟨respelled, sameOwner.mpr owns, sameForeign.mpr foreign, sameAnswer⟩,
    hashed, parts, accepted, accepts accepted, fields, againAnswers,
    unique again [0x61] accepted againAnswers⟩

end Bcrypt
