import Bcrypt.Blowfish.KeySchedule
import Mathlib.Algebra.Group.Nat.Defs
import Mathlib.Logic.Function.Iterate

/-!
# The rounds of the schedule

After the salted expansion the schedule repeats one and the same round, first the key,
then the salt as a key. Its state is an iterate of that round, so a schedule at a
greater cost goes on where one at a smaller cost ends, and one more in the cost means as
many rounds again.
-/

set_option autoImplicit false

namespace Bcrypt.Blowfish.CipherState

def rekeyOnce (key : List UInt8) (salt : Salt) (state : CipherState) : CipherState :=
  (state.expandKey key).expandKey salt.bytes.toList

theorem rekey_eq_iterate (key : List UInt8) (salt : Salt) (count : Nat) (state : CipherState) :
    rekey key salt count state = (rekeyOnce key salt)^[count] state := by
  induction count generalizing state with
  | zero => rfl
  | succ count ih =>
      rw [rekey, ih, Function.iterate_succ_apply]
      rfl

theorem schedule_eq_iterate (state : CipherState) (cost : Cost) (salt : Salt) (key : List UInt8) :
    state.schedule cost salt key =
      (rekeyOnce key salt)^[2 ^ cost.value] (CipherState.initial.expandKeyWithSalt key salt) := by
  have reset : state.reset = CipherState.initial := rfl
  have rounds : cost.rounds = 2 ^ cost.value := rfl
  rw [schedule, reset, rekey_eq_iterate, rounds]

theorem schedule_next (state other : CipherState) (cost next : Cost)
    (following : next.value = cost.value + 1) (salt : Salt) (key : List UInt8) :
    state.schedule next salt key =
      (rekeyOnce key salt)^[2 ^ cost.value] (other.schedule cost salt key) := by
  have twice : 2 ^ next.value = 2 ^ cost.value + 2 ^ cost.value := by
    rw [following, Nat.pow_succ, Nat.mul_two]
  rw [schedule_eq_iterate state next, twice, Function.iterate_add_apply,
    ← schedule_eq_iterate other cost]

/-- Whatever the state was before, the schedule leaves the salted expansion of the
initial state behind, followed by two to the power of the cost rounds. A cost below the
greatest has a next one, which takes as many rounds more. -/
theorem schedule_counts_rounds (key : List UInt8) (salt : Salt) :
    (∀ (state : CipherState) (cost : Cost), state.schedule cost salt key =
      (rekeyOnce key salt)^[2 ^ cost.value] (CipherState.initial.expandKeyWithSalt key salt)) ∧
    (∀ (state other : CipherState) (cost : Cost),
      state.schedule cost salt key = other.schedule cost salt key) ∧
    ∀ cost : Cost, cost.value < 31 → ∃ next : Cost, next.value = cost.value + 1 ∧
      ∀ state other : CipherState, state.schedule next salt key =
        (rekeyOnce key salt)^[2 ^ cost.value] (other.schedule cost salt key) := by
  refine ⟨?_, ?_, ?_⟩
  · intro state cost
    exact schedule_eq_iterate state cost salt key
  · intro state other cost
    rw [schedule_eq_iterate state, schedule_eq_iterate other]
  · intro cost below
    have least : 4 ≤ cost.value := cost.least_le
    refine ⟨⟨cost.value + 1, Nat.le_succ_of_le least, below⟩, rfl, ?_⟩
    intro state other
    exact schedule_next state other cost _ rfl salt key

/-- The greatest cost is reached from the one below it. -/
theorem schedule_counts_rounds_below_greatest :
    let cost : Cost := ⟨30, by decide, by decide⟩
    let salt : Salt := ⟨Vector.replicate 16 0⟩
    cost.value < 31 ∧ ∃ next : Cost, next.value = 31 ∧
      ∀ state other : CipherState, state.schedule next salt [] =
        (rekeyOnce [] salt)^[2 ^ cost.value] (other.schedule cost salt []) := by
  intro cost salt
  have below : cost.value < 31 := by decide
  exact ⟨below, (schedule_counts_rounds [] salt).2.2 cost below⟩

end Bcrypt.Blowfish.CipherState
