import Bcrypt.Proofs.Ownership
import Bcrypt.Session

/-!
# What a session remembers

A session remembers the cost and the salt that were accepted last, and nothing else. An
operation that does not renew them can be left out, and all other answers stay as they
are. A hash string is therefore accepted at any time of the session at which the hasher
is bound as it was when the hash string was made, and at no other time.
-/

set_option autoImplicit false

namespace Bcrypt.Session

def renewal? : Operation → Option Hasher
  | .renew value salt =>
      if inRange : 4 ≤ value ∧ value ≤ 31 then some ⟨⟨value, inRange.1, inRange.2⟩, salt⟩ else none
  | .hash _ => none
  | .verify _ _ => none

/-- The hasher after some operations: the last one that was accepted, or else the first
one of the session. -/
def current (hasher : Hasher) (operations : List Operation) : Hasher :=
  (operations.filterMap renewal?).getLast?.getD hasher

def answer? (hasher : Hasher) (operations : List Operation) (index : Nat) :
    Option (Except Error Reply) :=
  (run hasher operations)[index]?.map Outcome.result

theorem renewal_of_range {value : Nat} (inRange : 4 ≤ value ∧ value ≤ 31) (salt : Salt) :
    renewal? (.renew value salt) = some ⟨⟨value, inRange.1, inRange.2⟩, salt⟩ :=
  dif_pos inRange

theorem renewal_of_outside {value : Nat} (outside : ¬(4 ≤ value ∧ value ≤ 31)) (salt : Salt) :
    renewal? (.renew value salt) = none :=
  dif_neg outside

theorem step_hasher (hasher : Hasher) (operation : Operation) :
    (step hasher operation).2 = (renewal? operation).getD hasher := by
  cases operation with
  | renew value salt =>
      by_cases inRange : 4 ≤ value ∧ value ≤ 31
      · rw [step, make_of_range value salt inRange.1 inRange.2, renewal_of_range inRange]
        rfl
      · rw [step, make_of_outside inRange, renewal_of_outside inRange]
        rfl
  | hash password => rfl
  | verify password hashed => rfl

theorem step_of_outside (hasher : Hasher) {value : Nat} (outside : ¬(4 ≤ value ∧ value ≤ 31))
    (salt : Salt) :
    (step hasher (.renew value salt)).1.result = .error (.invalidCost value) := by
  rw [step, make_of_outside outside]
  rfl

theorem step_of_hash {hasher : Hasher} {password : List UInt8} {hashed : String}
    (made : (hasher.hash password).result = .ok hashed) :
    (step hasher (.hash password)).1.result = .ok (.hashed hashed) := by
  rw [step, Outcome.map_of_ok made]

theorem step_of_verify {hasher : Hasher} {password : List UInt8} {hashed : String} {matched : Bool}
    (answered : (hasher.verify password hashed).result = .ok matched) :
    (step hasher (.verify password hashed)).1.result = .ok (.checked matched) := by
  rw [step, Outcome.map_of_ok answered]

theorem run_cons (hasher : Hasher) (operation : Operation) (rest : List Operation) :
    run hasher (operation :: rest) =
      (step hasher operation).1 :: run (step hasher operation).2 rest := rfl

theorem current_cons (hasher : Hasher) (operation : Operation) (rest : List Operation) :
    current hasher (operation :: rest) = current (step hasher operation).2 rest := by
  unfold current
  rw [step_hasher]
  cases renewed : renewal? operation with
  | none => rw [List.filterMap_cons_none renewed, Option.getD_none]
  | some renewal =>
      rw [List.filterMap_cons_some renewed, List.getLast?_cons, Option.getD_some, Option.getD_some]

theorem answered_by_current (hasher : Hasher) (operations : List Operation) (index : Nat) :
    answer? hasher operations index =
      operations[index]?.map fun operation =>
        (step (current hasher (operations.take index)) operation).1.result := by
  induction operations generalizing hasher index with
  | nil => rfl
  | cons operation rest ih =>
      cases index with
      | zero => rfl
      | succ index =>
          -- The rest of the session starts from the hasher that the first operation leaves.
          rw [List.take_succ_cons, current_cons, List.getElem?_cons_succ, ← ih]
          rfl

/-- Leaving out an operation that renews nothing leaves out its answer and changes no other one. -/
theorem run_without (hasher : Hasher) {operations : List Operation} {index : Nat}
    {operation : Operation} (found : operations[index]? = some operation)
    (keeps : renewal? operation = none) :
    (run hasher operations).eraseIdx index = run hasher (operations.eraseIdx index) := by
  induction operations generalizing hasher index with
  | nil => contradiction
  | cons first rest ih =>
      cases index with
      | zero =>
          obtain rfl : first = operation := Option.some.inj found
          have same : (step hasher first).2 = hasher := by rw [step_hasher, keeps, Option.getD_none]
          rw [run_cons, same, List.eraseIdx_cons_zero, List.eraseIdx_cons_zero]
      | succ index =>
          rw [run_cons, List.eraseIdx_cons_succ, List.eraseIdx_cons_succ, run_cons, ih _ found]

/-- In every session a cost out of range is refused, and this as well as hashing and
checking can be left out without a change of any other answer. A password is always
hashed, and the hash string is later accepted for a password exactly if the hasher is
bound to the same cost and salt again, or still, and the password has the same digest
under them. -/
theorem answers_of_session (hasher : Hasher) (operations : List Operation) :
    (∀ index value salt, operations[index]? = some (.renew value salt) → ¬(4 ≤ value ∧ value ≤ 31) →
      answer? hasher operations index = some (.error (.invalidCost value)) ∧
      (run hasher operations).eraseIdx index = run hasher (operations.eraseIdx index)) ∧
    (∀ index operation, operations[index]? = some operation →
      (∀ value salt, operation ≠ .renew value salt) →
      (run hasher operations).eraseIdx index = run hasher (operations.eraseIdx index)) ∧
    ∀ made password, operations[made]? = some (.hash password) → ∃ hashed,
      answer? hasher operations made = some (.ok (.hashed hashed)) ∧
      ∀ checked other, operations[checked]? = some (.verify other hashed) → ∃ matched,
        answer? hasher operations checked = some (.ok (.checked matched)) ∧
        let maker := current hasher (operations.take made)
        let checker := current hasher (operations.take checked)
        (matched = true ↔ checker.cost = maker.cost ∧ checker.salt = maker.salt ∧
          (digestOf other maker.cost maker.salt).result =
            (digestOf password maker.cost maker.salt).result) := by
  refine ⟨?_, ?_, ?_⟩
  · intro index value salt found outside
    constructor
    · rw [answered_by_current, found, Option.map_some, step_of_outside _ outside]
    · exact run_without hasher found (renewal_of_outside outside salt)
  · intro index operation found noRenewal
    apply run_without hasher found
    cases operation with
    | renew value salt => exact absurd rfl (noRenewal value salt)
    | hash password => rfl
    | verify password hashed => rfl
  · intro made password found
    rcases made_hash_answers (current hasher (operations.take made)) password with
      ⟨hashed, madeHash, answers⟩
    refine ⟨hashed, ?_, ?_⟩
    · rw [answered_by_current, found, Option.map_some, step_of_hash madeHash]
    · intro checked other checkedFound
      rcases answers (current hasher (operations.take checked)) other with
        ⟨matched, answered, accepted⟩
      refine ⟨matched, ?_, accepted⟩
      rw [answered_by_current, checkedFound, Option.map_some, step_of_verify answered]

/-- A hash string is made, a cost is refused, the hash string is accepted, the cost is
renewed, and the same hash string is no longer accepted. -/
theorem answers_of_session_across_renewal :
    let salt : Salt := ⟨Vector.replicate 16 0⟩
    let hasher : Hasher := ⟨⟨4, by decide, by decide⟩, salt⟩
    ∃ hashed,
      let operations : List Operation :=
        [.hash [0x61], .renew 3 salt, .verify [0x61] hashed, .renew 5 salt, .verify [0x61] hashed]
      (operations[1]? = some (.renew 3 salt) ∧ ¬(4 ≤ 3 ∧ 3 ≤ 31) ∧
        answer? hasher operations 1 = some (.error (.invalidCost 3)) ∧
        (run hasher operations).eraseIdx 1 = run hasher (operations.eraseIdx 1)) ∧
      (operations[2]? = some (.verify [0x61] hashed) ∧
        (run hasher operations).eraseIdx 2 = run hasher (operations.eraseIdx 2)) ∧
      answer? hasher operations 0 = some (.ok (.hashed hashed)) ∧
      answer? hasher operations 2 = some (.ok (.checked true)) ∧
      answer? hasher operations 4 = some (.ok (.checked false)) := by
  intro salt hasher
  rcases hasher_makes_own_hash hasher [0x61] with ⟨hashed, made, _⟩
  refine ⟨hashed, ?_⟩
  intro operations
  have first : answer? hasher operations 0 = some (.ok (.hashed hashed)) :=
    congrArg some (step_of_hash made)
  rcases answers_of_session hasher operations with ⟨refusals, queries, hashes⟩
  have refused := refusals 1 3 salt rfl (by decide)
  have left := queries 2 (.verify [0x61] hashed) rfl (by simp)
  rcases hashes 0 [0x61] rfl with ⟨own, answered, checks⟩
  rw [first, Option.some_inj, Except.ok.injEq, Reply.hashed.injEq] at answered
  rw [← answered] at checks
  rcases checks 2 [0x61] rfl with ⟨matched, earlier, accepted⟩
  rcases checks 4 [0x61] rfl with ⟨laterMatched, later, laterAccepted⟩
  have accepts : matched = true := accepted.mpr ⟨rfl, rfl, rfl⟩
  have rejects : laterMatched = false := by
    apply Bool.eq_false_iff.mpr
    intro both
    have sameCost : 5 = 4 := congrArg Cost.value (laterAccepted.mp both).1
    contradiction
  rw [accepts] at earlier
  rw [rejects] at later
  exact ⟨⟨rfl, by decide, refused⟩, ⟨rfl, left⟩, first, earlier, later⟩

end Bcrypt.Session
