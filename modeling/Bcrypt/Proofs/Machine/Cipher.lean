import Bcrypt.Blowfish
import Bcrypt.Proofs.Machine.Checked

/-!
# The cipher on a machine

The words of a state are reached by index, the bytes of a buffer by chunks of a block.
All of them are there: a machine encrypts what the cipher encrypts.
-/

set_option autoImplicit false

namespace Bcrypt.Machine

open Blowfish (CipherState)

section

variable (state : CipherState)

def subkey (index : Nat) : Checked UInt32 := read state.subkeys.toList index

def setSubkey (index : Nat) (word : UInt32) : Checked CipherState := do
  return { state with subkeys := ← write state.subkeys index word }

def boxPlace (box entry : Nat) : Checked Nat :=
  if box < 4 ∧ entry < 256 then .ok (256 * box + entry) else .error .index

def boxEntry (box entry : Nat) : Checked UInt32 := do
  read state.boxes.toList (← boxPlace box entry)

def setBoxEntry (box entry : Nat) (word : UInt32) : Checked CipherState := do
  return { state with boxes := ← write state.boxes (← boxPlace box entry) word }

theorem subkey_runs (index : Nat) (inside : index < 18) :
    subkey state index = .ok state.subkeys[index] :=
  read_vector state.subkeys index inside

theorem box_entry_runs (number : Fin 4) (byte : UInt8) :
    boxEntry state number.val byte.toNat = .ok (state.box number byte) := by
  have inside : 256 * number.val + byte.toNat < 1024 := by
    have byteBound := byte.toNat_lt
    omega
  rw [boxEntry, boxPlace, if_pos ⟨number.isLt, byte.toNat_lt⟩, ok_bind]
  exact read_vector state.boxes _ inside

def substitute (word : UInt32) : Checked UInt32 := do
  let first ← boxEntry state 0 (word >>> 24).toUInt8.toNat
  let second ← boxEntry state 1 (word >>> 16).toUInt8.toNat
  let third ← boxEntry state 2 (word >>> 8).toUInt8.toNat
  let fourth ← boxEntry state 3 word.toUInt8.toNat
  return ((first + second) ^^^ third) + fourth

def roundPair (turn : Nat) (block : Block) : Checked Block := do
  let left := block.left ^^^ (← subkey state (2 * turn))
  let right := block.right ^^^ (← substitute state left)
  let right := right ^^^ (← subkey state (← add (2 * turn) 1))
  return ⟨left ^^^ (← substitute state right), right⟩

def whiten (block : Block) : Checked Block := do
  let left := block.left ^^^ (← subkey state 16)
  let right := block.right ^^^ (← subkey state (← add 16 1))
  return ⟨right, left⟩

def encrypt (block : Block) : Checked Block := do
  whiten state (← times (roundPair state) 0 8 block)

theorem substitute_runs (word : UInt32) : substitute state word = .ok (state.substitute word) := by
  have first := box_entry_runs state 0 (word >>> 24).toUInt8
  have second := box_entry_runs state 1 (word >>> 16).toUInt8
  have third := box_entry_runs state 2 (word >>> 8).toUInt8
  have fourth := box_entry_runs state 3 word.toUInt8
  change boxEntry state 0 _ = _ at first
  change boxEntry state 1 _ = _ at second
  change boxEntry state 2 _ = _ at third
  change boxEntry state 3 _ = _ at fourth
  rw [substitute, first, ok_bind, second, ok_bind, third, ok_bind, fourth]
  rfl

theorem round_pair_runs (left right : UInt32) (pairs : Nat) (bounded : pairs < 8) :
    roundPair state (7 - pairs) ⟨left, right⟩ =
      let left := left ^^^ state.subkeys[14 - 2 * pairs]
      let right := right ^^^ state.substitute left ^^^ state.subkeys[15 - 2 * pairs]
      .ok ⟨left ^^^ state.substitute right, right⟩ := by
  have index : 2 * (7 - pairs) = 14 - 2 * pairs := by omega
  have following : add (14 - 2 * pairs) 1 = .ok (15 - 2 * pairs) := by
    rw [add_small (by omega)]
    exact congrArg Except.ok (by omega)
  simp only [roundPair, index, following, subkey_runs state _ (show 14 - 2 * pairs < 18 by omega),
    subkey_runs state _ (show 15 - 2 * pairs < 18 by omega), substitute_runs, ok_bind]
  rfl

theorem whiten_runs (left right : UInt32) (bounded : 0 ≤ 8) :
    whiten state ⟨left, right⟩ = .ok (state.lastRounds left right 0 bounded) := by
  have last : add 16 1 = .ok 17 := add_small (by omega)
  simp only [whiten, last, subkey_runs state 16 (by omega), subkey_runs state 17 (by omega),
    ok_bind]
  rfl

/-- The induction is on the pairs of rounds still to come. -/
theorem last_rounds_run (left right : UInt32) (pairs : Nat) (bounded : pairs ≤ 8) :
    times (roundPair state) (8 - pairs) pairs ⟨left, right⟩ >>= whiten state =
      .ok (state.lastRounds left right pairs bounded) := by
  induction pairs generalizing left right with
  | zero => exact whiten_runs state left right bounded
  | succ pairs ih =>
      have turn : 8 - (pairs + 1) = 7 - pairs := by omega
      have following : 7 - pairs + 1 = 8 - pairs := by omega
      rw [times, turn, round_pair_runs state left right pairs bounded, following]
      exact ih _ _ (by omega)

theorem encrypt_runs (block : Block) : encrypt state block = .ok (state.encrypt block) :=
  last_rounds_run state block.left block.right 8 (by omega)

def readWord (bytes : List UInt8) (start : Nat) : Checked UInt32 := do
  let first ← read bytes start
  let second ← read bytes (start + 1)
  let third ← read bytes (start + 2)
  let fourth ← read bytes (start + 3)
  return Word.ofBytes first second third fourth

def encryptChunk (chunk : List UInt8) : Checked (List UInt8) := do
  let left ← readWord chunk 0
  let right ← readWord chunk 4
  let block ← encrypt state ⟨left, right⟩
  let chunk ← copyInto chunk 0 4 (Word.toBytes block.left)
  copyInto chunk 4 chunk.length (Word.toBytes block.right)

/-- A chunk shorter than a block has no bytes to read: there must be none. -/
def encryptChunks : List (List UInt8) → Checked (List UInt8)
  | [] => pure []
  | chunk :: rest => do return (← encryptChunk state chunk) ++ (← encryptChunks rest)

def encryptStream (buffer : List UInt8) : Fallible Error (List UInt8) :=
  if buffer.length % Block.size = 0 then
    lift (encryptChunks state (chunks Block.size buffer))
  else
    answer (.error (.internal
      ("stream of " ++ toString buffer.length ++ " bytes is not a whole number of blocks")))

theorem encrypt_chunk_runs (b0 b1 b2 b3 b4 b5 b6 b7 : UInt8) :
    encryptChunk state [b0, b1, b2, b3, b4, b5, b6, b7] =
      .ok (state.encrypt ⟨Word.ofBytes b0 b1 b2 b3, Word.ofBytes b4 b5 b6 b7⟩).toBytes := by
  change encrypt state ⟨Word.ofBytes b0 b1 b2 b3, Word.ofBytes b4 b5 b6 b7⟩ >>= _ = _
  rw [encrypt_runs, ok_bind]
  rfl

theorem encrypt_chunks_run (bytes : List UInt8) (whole : bytes.length % 8 = 0) :
    encryptChunks state (chunks 8 bytes) = .ok (state.encryptBlocks bytes) := by
  fun_induction CipherState.encryptBlocks state bytes with
  | case1 b0 b1 b2 b3 b4 b5 b6 b7 rest ih =>
      have cut : chunks 8 (b0 :: b1 :: b2 :: b3 :: b4 :: b5 :: b6 :: b7 :: rest) =
          [b0, b1, b2, b3, b4, b5, b6, b7] :: chunks 8 rest :=
        chunks_append (show [b0, b1, b2, b3, b4, b5, b6, b7].length = 8 from rfl) (by omega) rest
      have restWhole : rest.length % 8 = 0 := by
        simp only [List.length_cons] at whole
        omega
      rw [cut, encryptChunks, encrypt_chunk_runs, ih restWhole]
      rfl
  | case2 bytes short =>
      have empty : bytes = [] := by
        rcases bytes with
          _ | ⟨b0, _ | ⟨b1, _ | ⟨b2, _ | ⟨b3, _ | ⟨b4, _ | ⟨b5, _ | ⟨b6, _ | ⟨b7, rest⟩⟩⟩⟩⟩⟩⟩⟩
        · rfl
        iterate 7 (· simp at whole)
        · exact (short _ _ _ _ _ _ _ _ _ rfl).elim
      rw [empty, chunks_nil]
      rfl

theorem encrypt_stream_runs {size : Nat} (buffer : Vector UInt8 size) :
    encryptStream state buffer.toList =
      answer ((state.encryptStream buffer).map Vector.toList) := by
  rw [encryptStream, CipherState.encryptStream, Vector.length_toList]
  by_cases whole : size % Block.size = 0
  · rw [if_pos whole, if_pos whole, show Block.size = 8 from rfl,
      encrypt_chunks_run state buffer.toList]
    · rfl
    · rw [Vector.length_toList]
      exact whole
  · rw [if_neg whole, if_neg whole]
    rfl

end

end Bcrypt.Machine
