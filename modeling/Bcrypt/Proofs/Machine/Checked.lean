import Bcrypt.Error
import Mathlib.Algebra.Group.Nat.Defs

/-!
# Storage and arithmetic of a machine

A machine keeps values in storage of fixed extent and counts with words of fixed width.
Each access, each copy, each shift and each sum is checked here before it is made, and a
check that does not hold ends the run with a fault. A fault is no answer: it is kept
apart from the errors with which a call refuses its input.
-/

set_option autoImplicit false

namespace Bcrypt.Machine

inductive Fault where
  | index
  /-- The ends of a range are in the wrong order, or not both inside the storage. -/
  | range
  /-- A copy has another length than what it replaces. -/
  | length
  | shift
  | overflow
  | underflow
  deriving DecidableEq

/-- A value, if no check fails on the way to it. -/
abbrev Checked (α : Type) := Except Fault α

abbrev Fallible (ε α : Type) := ExceptT ε Checked α

def answer {ε α : Type} (result : Except ε α) : Fallible ε α := ExceptT.mk (.ok result)

def lift {ε α : Type} (run : Checked α) : Fallible ε α := ExceptT.lift run

@[simp] theorem ok_bind {α β : Type} (value : α) (next : α → Checked β) :
    ((.ok value : Checked α) >>= next) = next value :=
  rfl

section

variable {ε ε' α β : Type}

@[simp] theorem answer_ok_bind (value : α) (next : α → Fallible ε β) :
    (answer (.ok value) >>= next) = next value :=
  rfl

@[simp] theorem lift_ok (value : α) : (lift (.ok value) : Fallible ε α) = answer (.ok value) :=
  rfl

@[simp] theorem answer_run (result : Except ε α) : (answer result).run = .ok result :=
  rfl

@[simp] theorem adapt_answer (change : ε → ε') (result : Except ε α) :
    (answer result).adapt change = answer (result.mapError change) := by
  cases result <;> rfl

end

section

variable {α : Type}

def read (storage : List α) (index : Nat) : Checked α :=
  match storage[index]? with
  | some value => .ok value
  | none => .error .index

def write {size : Nat} (storage : Vector α size) (index : Nat) (value : α) :
    Checked (Vector α size) :=
  if inside : index < size then .ok (storage.set index value) else .error .index

def slice (storage : List α) (start stop : Nat) : Checked (List α) :=
  if start ≤ stop ∧ stop ≤ storage.length then .ok ((storage.take stop).drop start)
  else .error .range

def copyInto (storage : List α) (start stop : Nat) (source : List α) : Checked (List α) :=
  if start ≤ stop ∧ stop ≤ storage.length then
    if source.length = stop - start then .ok (storage.take start ++ source ++ storage.drop stop)
    else .error .length
  else
    .error .range

def fill (size : Nat) (source : List α) : Checked (Vector α size) :=
  if sized : source.length = size then .ok ⟨source.toArray, sized⟩ else .error .length

theorem read_ok {storage : List α} {index : Nat} {value : α}
    (found : storage[index]? = some value) : read storage index = .ok value := by
  rw [read, found]

theorem read_vector {size : Nat} (storage : Vector α size) (index : Nat) (inside : index < size) :
    read storage.toList index = .ok storage[index] := by
  apply read_ok
  rw [List.getElem?_eq_getElem (by rw [Vector.length_toList]; exact inside), Vector.getElem_toList]

theorem write_ok {size : Nat} (storage : Vector α size) (index : Nat) (value : α)
    (inside : index < size) :
    write storage index value = .ok (storage.set index value) :=
  dif_pos inside

theorem slice_ok {storage : List α} {start stop : Nat} (ordered : start ≤ stop)
    (inside : stop ≤ storage.length) :
    slice storage start stop = .ok ((storage.take stop).drop start) :=
  if_pos ⟨ordered, inside⟩

theorem copy_into_ok {storage source : List α} {start stop : Nat} (inside : stop ≤ storage.length)
    (sized : source.length + start = stop) :
    copyInto storage start stop source =
      .ok (storage.take start ++ source ++ storage.drop stop) := by
  rw [copyInto, if_pos ⟨by omega, inside⟩, if_pos (by omega)]

theorem fill_ok {size : Nat} (source : Vector α size) : fill size source.toList = .ok source :=
  dif_pos Vector.length_toList

end

/-- A number, if it is one of the given many values of a word. -/
def bounded (values number : Nat) : Checked Nat :=
  if number < values then .ok number else .error .overflow

def add (first second : Nat) : Checked Nat := bounded USize.size (first + second)

def multiply (first second : Nat) : Checked Nat := bounded USize.size (first * second)

def subtract (first second : Nat) : Checked Nat :=
  if second ≤ first then .ok (first - second) else .error .underflow

def shiftLeft (word : UInt32) (amount : Nat) : Checked UInt32 :=
  if amount < 32 then .ok (word <<< UInt32.ofNat amount) else .error .shift

def shiftRight (word : UInt32) (amount : Nat) : Checked UInt32 :=
  if amount < 32 then .ok (word >>> UInt32.ofNat amount) else .error .shift

section

variable {values number : Nat}

theorem bounded_ok (fits : number < values) : bounded values number = .ok number :=
  if_pos fits

theorem bounded_overflow (large : values ≤ number) : bounded values number = .error .overflow :=
  if_neg (Nat.not_lt.mpr large)

theorem bounded_eq_ok_iff {result : Nat} :
    bounded values number = .ok result ↔ number < values ∧ number = result := by
  by_cases fits : number < values
  · rw [bounded_ok fits, Except.ok.injEq]
    exact (and_iff_right fits).symm
  · rw [bounded_overflow (Nat.not_lt.mp fits)]
    exact iff_of_false nofun (mt And.left fits)

theorem bounded_eq_overflow_iff : bounded values number = .error .overflow ↔ values ≤ number := by
  by_cases fits : number < values
  · rw [bounded_ok fits]
    exact iff_of_false nofun (Nat.not_le.mpr fits)
  · have large := Nat.not_lt.mp fits
    exact iff_of_true (bounded_overflow large) large

end

theorem add_ok {first second : Nat} (fits : first + second < USize.size) :
    add first second = .ok (first + second) :=
  if_pos fits

/-- Whatever the width of a length is, it is at least 32. -/
theorem add_small {first second : Nat} (small : first + second < 4294967296) :
    add first second = .ok (first + second) :=
  add_ok (Nat.lt_of_lt_of_le small USize.le_size)

theorem multiply_ok {first second : Nat} (fits : first * second < USize.size) :
    multiply first second = .ok (first * second) :=
  if_pos fits

theorem subtract_ok {first second : Nat} (ordered : second ≤ first) :
    subtract first second = .ok (first - second) :=
  if_pos ordered

theorem shift_left_ok {amount : Nat} (inside : amount < 32) (word : UInt32) :
    shiftLeft word amount = .ok (word <<< UInt32.ofNat amount) :=
  if_pos inside

theorem shift_right_ok {amount : Nat} (inside : amount < 32) (word : UInt32) :
    shiftRight word amount = .ok (word >>> UInt32.ofNat amount) :=
  if_pos inside

section

variable (word : UInt32) {amount : Nat} (inside : amount < 32)

include inside

theorem amount_word : (UInt32.ofNat amount).toNat = amount :=
  UInt32.toNat_ofNat_of_lt' (Nat.lt_trans inside (by decide))

theorem shifted_right_value : (word >>> UInt32.ofNat amount).toNat = word.toNat / 2 ^ amount := by
  rw [UInt32.toNat_shiftRight, amount_word inside, Nat.mod_eq_of_lt inside,
    Nat.shiftRight_eq_div_pow]

theorem shifted_left_value (fits : word.toNat * 2 ^ amount < UInt32.size) :
    (word <<< UInt32.ofNat amount).toNat = word.toNat * 2 ^ amount := by
  rw [UInt32.toNat_shiftLeft, amount_word inside, Nat.mod_eq_of_lt inside, Nat.shiftLeft_eq]
  exact Nat.mod_eq_of_lt fits

end

def times {m : Type → Type} [Monad m] {σ : Type} (body : Nat → σ → m σ) :
    (turn count : Nat) → σ → m σ
  | _, 0, state => pure state
  | turn, count + 1, state => body turn state >>= times body (turn + 1) count

section

variable {m : Type → Type} [Monad m] {σ : Type}

theorem times_congr {body other : Nat → σ → m σ} {turn start count : Nat}
    (same : ∀ passed < count, body (turn + passed) = other (start + passed)) :
    times body turn count = times other start count := by
  induction count generalizing turn start with
  | zero => rfl
  | succ count ih =>
      funext state
      have first : body turn = other start := same 0 (Nat.zero_lt_succ count)
      rw [times, times, first, ih]
      intro passed before
      rw [Nat.add_assoc, Nat.add_assoc, Nat.add_comm 1]
      exact same (passed + 1) (Nat.succ_lt_succ before)

variable [LawfulMonad m]

theorem times_add (body : Nat → σ → m σ) (turn first second : Nat) (state : σ) :
    times body turn (first + second) state =
      times body turn first state >>= times body (turn + first) second := by
  induction first generalizing turn state with
  | zero => rw [times, pure_bind, Nat.zero_add, Nat.add_zero]
  | succ first ih =>
      rw [Nat.add_right_comm, times, times, bind_assoc]
      congr 1
      funext next
      rw [ih, Nat.add_assoc, Nat.add_comm 1]

/-- A loop inside another one is one loop over all turns of both. -/
theorem times_nested (body : Nat → Nat → σ → m σ) {size : Nat} (positive : 0 < size)
    (start count : Nat) (state : σ) :
    times (fun outer => times (body outer) 0 size) start count state =
      times (fun turn => body (turn / size) (turn % size)) (size * start) (size * count) state := by
  induction count generalizing start state with
  | zero => rfl
  | succ count ih =>
      have inner : times (fun turn => body (turn / size) (turn % size)) (size * start) size =
          times (body start) 0 size := by
        apply times_congr
        intro passed before
        rw [Nat.mul_add_div positive, Nat.div_eq_of_lt before, Nat.mul_add_mod,
          Nat.mod_eq_of_lt before, Nat.add_zero, Nat.zero_add]
      rw [Nat.mul_add_one, Nat.add_comm _ size, times, times_add, inner]
      congr 1
      funext next
      rw [ih, Nat.mul_add_one]

end

def chunks {α : Type} (size : Nat) (sequence : List α) : List (List α) :=
  if sequence = [] ∨ size = 0 then []
  else sequence.take size :: chunks size (sequence.drop size)
termination_by sequence.length
decreasing_by
  rw [List.length_drop]
  have nonempty := List.length_pos_iff.mpr (not_or.mp ‹_›).1
  omega

theorem chunks_nil {α : Type} (size : Nat) : chunks size ([] : List α) = [] := by
  rw [chunks, if_pos (.inl rfl)]

theorem chunks_append {α : Type} {size : Nat} {front : List α} (sized : front.length = size)
    (positive : size ≠ 0) (rest : List α) :
    chunks size (front ++ rest) = front :: chunks size rest := by
  have nonempty : front ++ rest ≠ [] := by
    rw [← sized] at positive
    exact List.append_ne_nil_of_left_ne_nil (List.length_pos_iff.mp (Nat.pos_of_ne_zero positive))
      rest
  rw [chunks, if_neg (not_or.mpr ⟨nonempty, positive⟩), List.take_left' sized,
    List.drop_left' sized]

theorem chunks_short {α : Type} {size : Nat} {sequence : List α} (nonempty : sequence ≠ [])
    (short : sequence.length ≤ size) : chunks size sequence = [sequence] := by
  have positive : size ≠ 0 := by
    have length := List.length_pos_iff.mpr nonempty
    omega
  rw [chunks, if_neg (not_or.mpr ⟨nonempty, positive⟩), List.take_of_length_le short,
    List.drop_of_length_le short, chunks_nil]

end Bcrypt.Machine
