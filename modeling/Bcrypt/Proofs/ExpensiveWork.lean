import Bcrypt.Proofs.Disclosure

/-!
# When the expensive work is done

The key schedule takes nearly all the time of a hashing or a verification, and it can be
asked for at any cost. A call runs it once, and only after all its inputs have passed
their checks. A call that fails has run nothing and reported nothing, and a hasher does
no work for a hash string that is not its own, whatever cost stands in it.
-/

set_option autoImplicit false

namespace Bcrypt

/-- The events of a log that belong to the key schedule, told by their messages. -/
def scheduling (log : List Entry) : List Event :=
  (log.map Entry.event).filter fun event =>
    event.message = "deriving bcrypt digest" ∨ event.message = "running expensive key schedule"

theorem scheduling_append (first second : List Entry) :
    scheduling (first ++ second) = scheduling first ++ scheduling second := by
  rw [scheduling, List.map_append, List.filter_append]
  rfl

theorem scheduling_within {α : Type} (scope : String) (outcome : Outcome α) :
    scheduling (Outcome.within scope outcome).log = scheduling outcome.log := by
  unfold scheduling Outcome.within
  rw [List.map_map]
  rfl

theorem scheduling_digest_log (length : Nat) (cost : Cost) :
    scheduling (digestLog length cost) =
      [.digestDerivation cost, .keySchedule (2 ^ cost.value)] := by
  unfold digestLog
  split <;> rfl

/-- The key schedule runs once if there is a cost that is asked for, and then it runs at
that cost. Otherwise it does not run, and there is an error or another reason. An error
leaves no trace at all. -/
structure Gated {α : Type} (asks : Cost → Prop) (reason : Prop) (outcome : Outcome α) : Prop where
  once : ∀ cost, asks cost → (∃ value, outcome.result = .ok value) ∧
    scheduling outcome.log = [.digestDerivation cost, .keySchedule (2 ^ cost.value)]
  never : (∀ cost, ¬asks cost) →
    scheduling outcome.log = [] ∧ ((∃ error, outcome.result = .error error) ∨ reason)
  silent : ∀ error, outcome.result = .error error → outcome.log = []

section

variable {α : Type} {asks : Cost → Prop} {reason : Prop} {outcome : Outcome α}

theorem Gated.of_work {cost : Cost} {value : α} (asked : ∀ other, asks other ↔ other = cost)
    (succeeded : outcome.result = .ok value)
    (worked : scheduling outcome.log = [.digestDerivation cost, .keySchedule (2 ^ cost.value)]) :
    Gated asks reason outcome := by
  constructor
  · intro other asksOther
    rw [(asked other).mp asksOther]
    exact ⟨⟨value, succeeded⟩, worked⟩
  · intro unasked
    exact absurd ((asked cost).mpr rfl) (unasked cost)
  · intro error failed
    rw [succeeded] at failed
    contradiction

theorem Gated.of_digest_log {cost : Cost} {value : α} {length : Nat}
    (asked : ∀ other, asks other ↔ other = cost)
    (worked : outcome = ⟨.ok value, digestLog length cost⟩) : Gated asks reason outcome := by
  apply Gated.of_work asked
  · rw [worked]
  · rw [worked, scheduling_digest_log]

theorem Gated.of_error {error : Error} (unasked : ∀ cost, ¬asks cost)
    (failed : outcome = ⟨.error error, []⟩) : Gated asks reason outcome := by
  rw [failed]
  constructor
  · intro cost asksCost
    exact absurd asksCost (unasked cost)
  · intro _
    exact ⟨rfl, .inl ⟨error, rfl⟩⟩
  · intro _ _
    rfl

theorem Gated.of_reason {value : α} (unasked : ∀ cost, ¬asks cost) (holds : reason)
    (succeeded : outcome.result = .ok value) (idle : scheduling outcome.log = []) :
    Gated asks reason outcome := by
  constructor
  · intro cost asksCost
    exact absurd asksCost (unasked cost)
  · intro _
    exact ⟨idle, .inr holds⟩
  · intro error failed
    rw [succeeded] at failed
    contradiction

end

def Acceptable (value : Nat) (saltText : List UInt8) (cost : Cost) : Prop :=
  cost.value = value ∧ ∃ salt, Salt.decode saltText = .ok salt

section

variable {value : Nat} {saltText : List UInt8}

theorem check_of_acceptable {cost : Cost} (acceptable : Acceptable value saltText cost) :
    ∃ salt, checkInputs value saltText = .ok (cost, salt) := by
  rcases acceptable with ⟨rfl, salt, read⟩
  exact ⟨salt, check_of_salt cost read⟩

theorem not_acceptable_of_refused {error : Error}
    (refused : checkInputs value saltText = .error error) (cost : Cost) :
    ¬Acceptable value saltText cost := by
  intro acceptable
  rcases check_of_acceptable acceptable with ⟨salt, accepted⟩
  rw [refused] at accepted
  contradiction

theorem acceptable_of_check {cost : Cost} {salt : Salt}
    (accepted : checkInputs value saltText = .ok (cost, salt)) :
    Acceptable value saltText cost := by
  rcases except_bind_ok accepted with ⟨given, inRange, rest⟩
  cases read : Salt.decode saltText with
  | error error =>
      rw [read] at rest
      contradiction
  | ok decoded =>
      rw [read] at rest
      cases rest
      exact ⟨Cost.of_nat_sound inRange, salt, read⟩

theorem acceptable_iff {cost : Cost} {salt : Salt}
    (accepted : checkInputs value saltText = .ok (cost, salt)) (other : Cost) :
    Acceptable value saltText other ↔ other = cost := by
  constructor
  · intro acceptable
    rcases check_of_acceptable acceptable with ⟨_, same⟩
    rw [accepted] at same
    cases same
    rfl
  · rintro rfl
    exact acceptable_of_check accepted

variable (password : List UInt8)

theorem hash_gated (value : Nat) (saltText : List UInt8) :
    Gated (Acceptable value saltText) False (hash password value saltText) := by
  cases checked : checkInputs value saltText with
  | error error => exact .of_error (not_acceptable_of_refused checked) (hash_of_refused checked)
  | ok inputs =>
      rcases digest_of_succeeds password inputs.1 inputs.2 with ⟨digest, digested⟩
      exact .of_digest_log (acceptable_iff checked) (hash_of_accepted checked digested)

theorem hash_into_gated (value : Nat) (saltText buffer : List UInt8) :
    Gated (fun cost => Acceptable value saltText cost ∧ 31 ≤ buffer.length) False
      (hashInto password value saltText buffer).1 := by
  cases checked : checkInputs value saltText with
  | error error =>
      apply Gated.of_error
      · intro cost asked
        exact not_acceptable_of_refused checked cost asked.1
      · rw [hash_into_of_refused checked]
  | ok inputs =>
      -- The buffer is the last input to be checked, and the digest is still to be derived then.
      by_cases small : buffer.length < 31
      · apply Gated.of_error
        · intro cost asked
          exact Nat.not_le.mpr small asked.2
        · rw [hash_into_of_small checked small]
      · have fits := Nat.not_lt.mp small
        rcases digest_of_succeeds password inputs.1 inputs.2 with ⟨digest, digested⟩
        apply Gated.of_digest_log
        · intro other
          rw [and_iff_left fits, acceptable_iff checked]
        · rw [hash_into_of_fitting checked digested fits]

end

section

variable (password : List UInt8)

theorem hasher_hash_gated (hasher : Hasher) :
    Gated (· = hasher.cost) False (hasher.hash password) := by
  rcases digest_of_succeeds password hasher.cost hasher.salt with ⟨digest, digested⟩
  exact .of_digest_log (fun _ => Iff.rfl) (hasher_hash_eq digested)

theorem hasher_verify_gated (hasher : Hasher) (text : String) :
    Gated (fun cost => hasher.Owns text ∧ cost = hasher.cost) (hasher.FindsForeign text)
      (hasher.verify password text) := by
  cases read : HashString.parse text with
  | error error =>
      apply Gated.of_error
      · rintro _ ⟨⟨parts, owned, _⟩, _⟩
        rw [read] at owned
        contradiction
      · rw [hasher_verify_of_error password read]
  | ok parts =>
      by_cases owns : hasher.Owns text
      · have same := (Hasher.owns_iff read).mp owns
        rcases digest_of_succeeds password parts.cost parts.salt with ⟨digest, digested⟩
        apply Gated.of_digest_log
        · intro other
          exact and_iff_right owns
        · rw [verify_of_own_parts read same.1 same.2 digested, same.1]
      · have foreign := (Hasher.finds_foreign_iff read).mpr owns
        have answered := hasher_verify_of_foreign password foreign
        apply Gated.of_reason (fun _ asked => owns asked.1) foreign
        · rw [answered]
        · rw [answered]
          rfl

theorem verify_gated (text : String) :
    Gated (fun cost => ∃ parts, HashString.parse text = .ok parts ∧ cost = parts.cost) False
      (verify password text) := by
  cases read : HashString.parse text with
  | error error =>
      apply Gated.of_error
      · rintro _ ⟨parts, found, _⟩
        contradiction
      · rw [verify_of_error password read]
  | ok parts =>
      rcases digest_of_succeeds password parts.cost parts.salt with ⟨digest, digested⟩
      have answered := verify_of_parts read digested
      apply Gated.of_work
      · intro other
        constructor
        · rintro ⟨others, found, same⟩
          rw [same, ← Except.ok.inj found]
        · intro same
          exact ⟨parts, rfl, same⟩
      · rw [answered]
        rfl
      · rw [answered, scheduling_within, scheduling_append, scheduling_digest_log]
        rfl

/-- However a password is hashed or checked, the key schedule runs exactly once, at the
cost that is asked for, if all inputs are valid and the hash string belongs to the
hasher, and it does not run in any other case. -/
theorem schedule_runs_after_checks :
    (∀ value saltText, Gated (Acceptable value saltText) False (hash password value saltText)) ∧
    (∀ value saltText buffer,
      Gated (fun cost => Acceptable value saltText cost ∧ 31 ≤ buffer.length) False
        (hashInto password value saltText buffer).1) ∧
    (∀ hasher : Hasher, Gated (· = hasher.cost) False (hasher.hash password)) ∧
    (∀ (hasher : Hasher) text,
      Gated (fun cost => hasher.Owns text ∧ cost = hasher.cost) (hasher.FindsForeign text)
        (hasher.verify password text)) ∧
    ∀ text, Gated (fun cost => ∃ parts, HashString.parse text = .ok parts ∧ cost = parts.cost) False
      (verify password text) :=
  ⟨hash_gated password, hash_into_gated password, hasher_hash_gated password,
    hasher_verify_gated password, verify_gated password⟩

end

/-- Valid inputs at the greatest cost, a buffer that is one byte short, a hash string of
the greatest cost with a hasher of the usual one, and a text that does not read. -/
theorem schedule_runs_after_checks_at_greatest_cost :
    let cost : Cost := ⟨31, by decide, by decide⟩
    let saltText := Text.bytes "CCCCCCCCCCCCCCCCCCCCC."
    let short := List.replicate 30 (0 : UInt8)
    let text := "$2b$31$CCCCCCCCCCCCCCCCCCCCC.E5YPO9kmyuRGyh0XouQYb4YMJKvyOeW"
    let hasher : Hasher := ⟨.default, ⟨Vector.replicate 16 0⟩⟩
    (Acceptable 31 saltText cost ∧
      scheduling (hash [0x61] 31 saltText).log = [.digestDerivation cost, .keySchedule (2 ^ 31)]) ∧
    ((∀ other, ¬(Acceptable 31 saltText other ∧ 31 ≤ short.length)) ∧
      scheduling (hashInto [0x61] 31 saltText short).1.log = []) ∧
    (hasher.FindsForeign text ∧ (∀ other, ¬(hasher.Owns text ∧ other = hasher.cost)) ∧
      scheduling (hasher.verify [0x61] text).log = []) ∧
    ((verify [0x61] "").result = .error (.malformedHash "hash string too short") ∧
      (verify [0x61] "").log = []) := by
  intro cost saltText short text hasher
  have read : Salt.decode saltText =
      .ok ⟨#v[0x10, 0x41, 0x04, 0x10, 0x41, 0x04, 0x10, 0x41, 0x04, 0x10, 0x41, 0x04, 0x10, 0x41,
        0x04, 0x10]⟩ := by
    decide +kernel
  have acceptable : Acceptable 31 saltText cost := ⟨rfl, _, read⟩
  have tooShort : ∀ other, ¬(Acceptable 31 saltText other ∧ 31 ≤ short.length) := by
    intro other both
    exact absurd both.2 (by decide)
  have costRead : (HashString.parse text >>= fun parts => .ok parts.cost) = .ok cost := by
    decide +kernel
  rcases except_bind_ok costRead with ⟨parts, textRead, textCost⟩
  have notOwn : ¬hasher.Owns text := by
    rw [Hasher.owns_iff textRead, Except.ok.inj textCost]
    intro same
    exact absurd (congrArg Cost.value same.1) (by decide)
  have unasked : ∀ other, ¬(hasher.Owns text ∧ other = hasher.cost) := fun _ both => notOwn both.1
  have unread : HashString.parse "" = .error (.malformedHash "hash string too short") := by
    decide +kernel
  have refused : (verify [0x61] "").result = .error (.malformedHash "hash string too short") := by
    rw [verify_of_error [0x61] unread]
  rcases schedule_runs_after_checks [0x61] with ⟨hashing, buffers, _, bound, free⟩
  exact ⟨⟨acceptable, ((hashing 31 saltText).once cost acceptable).2⟩,
    ⟨tooShort, ((buffers 31 saltText short).never tooShort).1⟩,
    ⟨(Hasher.finds_foreign_iff textRead).mpr notOwn, unasked,
      ((bound hasher text).never unasked).1⟩,
    refused, (free "").silent _ refused⟩

end Bcrypt
