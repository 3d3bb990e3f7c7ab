import Bcrypt.Cost
import Bcrypt.HashString

/-!
# Outcomes and what is reported on the way

Hashing and verification report what they do. An outcome is the result together with the
events reported before it was known; nothing is written anywhere until someone shows the
log.
-/

set_option autoImplicit false

namespace Bcrypt

inductive Level where
  | debug
  | trace
  deriving DecidableEq

/-- What can be reported. Of a password no event holds more than its length and whether
it matched. -/
inductive Event where
  | passwordTruncated (length : Nat)
  | digestDerivation (cost : Cost)
  | keySchedule (rounds : Nat)
  /-- A hasher was asked about a hash string with another cost or salt. -/
  | foreignHash
  | verified (version : Version) (cost : Cost) (matched : Bool)
  deriving DecidableEq

namespace Event

def level : Event → Level
  | .keySchedule _ => .trace
  | _ => .debug

def message : Event → String
  | .passwordTruncated _ =>
      "password longer than " ++ toString Limits.significantSize ++ " bytes, trailing bytes ignored"
  | .digestDerivation _ => "deriving bcrypt digest"
  | .keySchedule _ => "running expensive key schedule"
  | .foreignHash => "hash string was not made with this hasher's cost and salt"
  | .verified _ _ _ => "verified password"

end Event

@[ext] structure Entry where
  scopes : List String
  event : Event
  deriving DecidableEq

/-- A result, and the events reported on the way to it, the earliest first. -/
@[ext] structure Outcome (α : Type) where
  result : Except Error α
  log : List Entry

namespace Outcome

variable {α β : Type}

protected def pure (value : α) : Outcome α := ⟨.ok value, []⟩

protected def bind (outcome : Outcome α) (next : α → Outcome β) : Outcome β :=
  match outcome.result with
  | .error error => ⟨.error error, outcome.log⟩
  | .ok value =>
      let following := next value
      ⟨following.result, outcome.log ++ following.log⟩

instance : Monad Outcome where
  pure := Outcome.pure
  bind := Outcome.bind

def ofExcept (result : Except Error α) : Outcome α := ⟨result, []⟩

def report (event : Event) : Outcome Unit := ⟨.ok (), [⟨[], event⟩]⟩

@[simp] theorem pure_bind (value : α) (next : α → Outcome β) : (pure value >>= next) = next value :=
  rfl

@[simp] theorem of_except_ok_bind (value : α) (next : α → Outcome β) :
    (ofExcept (.ok value) >>= next) = next value := rfl

@[simp] theorem of_except_error_bind (error : Error) (next : α → Outcome β) :
    (ofExcept (.error error) >>= next) = ⟨.error error, []⟩ := rfl

@[simp] theorem report_bind (event : Event) (next : Unit → Outcome β) :
    (report event >>= next) = ⟨(next ()).result, ⟨[], event⟩ :: (next ()).log⟩ := rfl

theorem bind_of_ok {outcome : Outcome α} {value : α} (succeeded : outcome.result = .ok value)
    (next : α → Outcome β) :
    (outcome >>= next) = ⟨(next value).result, outcome.log ++ (next value).log⟩ := by
  change Outcome.bind outcome next = _
  simp only [Outcome.bind, succeeded]

theorem bind_pure_of_ok {outcome : Outcome α} {value : α} (succeeded : outcome.result = .ok value)
    (next : α → β) :
    (outcome >>= fun value => pure (next value)) = ⟨.ok (next value), outcome.log⟩ := by
  rw [bind_of_ok succeeded]
  exact congrArg (Outcome.mk _) (List.append_nil _)

theorem map_of_ok {outcome : Outcome α} {value : α} (succeeded : outcome.result = .ok value)
    (next : α → β) : next <$> outcome = ⟨.ok (next value), outcome.log⟩ :=
  bind_pure_of_ok succeeded next

/-- Everything reported on the way to the outcome is part of the named activity. -/
def within (scope : String) (outcome : Outcome α) : Outcome α :=
  { outcome with
    log := outcome.log.map fun entry => { entry with scopes := scope :: entry.scopes } }

end Outcome

end Bcrypt
