import Bcrypt.Blowfish
import Bcrypt.Proofs.ByteStream

/-!
# One round at a time

The cipher as the textbook has it: sixteen equal rounds, each of which ends with the
halves trading places, and the last trade undone before the whitening. It reads its key
as one row of words, the subkeys first and the four boxes behind them. Encryption of a
block, which takes two rounds at a time and never moves a half, agrees with it for every
state and every block.
-/

set_option autoImplicit false

namespace Bcrypt.Blowfish

open ByteStream

/-- The words of a state end to end: eighteen subkeys, then four boxes of 256 entries. -/
abbrev Words := Vector UInt32 1042

namespace CipherState

def words (state : CipherState) : Words := state.subkeys ++ state.boxes

theorem words_subkey (state : CipherState) (index : Nat) (bounded : index < 18) :
    state.words[index] = state.subkeys[index] :=
  Vector.getElem_append_left bounded

theorem words_box (state : CipherState) (index : Nat) (bounded : index < 1024) :
    state.words[18 + index] = state.boxes[index] := by
  have inside : 18 + index < 18 + 1024 := by omega
  have read : (state.subkeys ++ state.boxes)[18 + index] = state.boxes[18 + index - 18] :=
    Vector.getElem_append_right inside (Nat.le_add_right 18 index)
  simp only [Nat.add_sub_cancel_left] at read
  exact read

theorem words_injective {state other : CipherState} (same : state.words = other.words) :
    state = other := by
  have parts := Vector.append_inj same
  exact CipherState.ext parts.1 parts.2

end CipherState

namespace Textbook

/-- The round function, on the four bytes of a word from the most significant on. The
boxes start at the words 18, 274, 530 and 786. -/
def mix (words : Words) (word : UInt32) : UInt32 :=
  ((words[18 + (byteOf word 3).val] + words[274 + (byteOf word 2).val]) ^^^
    words[530 + (byteOf word 1).val]) + words[786 + (byteOf word 0).val]

def swap (block : Block) : Block := ⟨block.right, block.left⟩

/-- One round: the left half takes up a subkey and is mixed into the right half, then
the halves trade places. -/
def round (words : Words) (index : Fin 16) (block : Block) : Block :=
  let left := block.left ^^^ words[index.val]
  swap ⟨left, block.right ^^^ mix words left⟩

def rounds (words : Words) (block : Block) : (count : Nat) → count ≤ 16 → Block
  | 0, _ => block
  | count + 1, bounded => round words ⟨count, bounded⟩ (rounds words block count (by omega))

/-- Sixteen rounds, the last trade undone, and the two last subkeys. -/
def encrypt (words : Words) (block : Block) : Block :=
  let last := swap (rounds words block 16 (by omega))
  ⟨last.left ^^^ words[17], last.right ^^^ words[16]⟩

end Textbook

open Textbook

theorem box_is_word (state : CipherState) (box : Fin 4) (byte : UInt8) (place : Fin 256)
    (same : byte.toNat = place.val) :
    state.box box byte = state.words[18 + 256 * box.val + place.val] := by
  have inside : 256 * box.val + place.val < 1024 := by omega
  have read := state.words_box (256 * box.val + place.val) inside
  simp only [← Nat.add_assoc] at read
  simp only [CipherState.box, same, read]

theorem substitute_is_mix (state : CipherState) (word : UInt32) :
    state.substitute word = mix state.words word := by
  have high := box_is_word state 0 (word >>> 24).toUInt8 _ (shifted_byte word 3 (by decide))
  have upper := box_is_word state 1 (word >>> 16).toUInt8 _ (shifted_byte word 2 (by decide))
  have lower := box_is_word state 2 (word >>> 8).toUInt8 _ (shifted_byte word 1 (by decide))
  have low := box_is_word state 3 word.toUInt8 (byteOf word 0)
    (by simpa using shifted_byte word 0 (by decide))
  rw [CipherState.substitute, mix, high, upper, lower, low]
  rfl

theorem two_rounds (words : Words) (block : Block) (count : Nat) (bounded : count + 2 ≤ 16) :
    let reached := rounds words block count (by omega)
    let left := reached.left ^^^ words[count]
    let right := reached.right ^^^ mix words left ^^^ words[count + 1]
    rounds words block (count + 2) bounded = ⟨left ^^^ mix words right, right⟩ := by
  simp [rounds, Textbook.round, swap]

theorem last_rounds_finish (state : CipherState) (block : Block) (pairs done : Nat)
    (bounded : pairs ≤ 8) (total : done + 2 * pairs = 16) :
    let reached := rounds state.words block done (by omega)
    state.lastRounds reached.left reached.right pairs bounded = encrypt state.words block := by
  -- When `pairs` pairs of rounds are left, the halves are those of the textbook after
  -- the rounds before.
  induction pairs generalizing done with
  | zero =>
      obtain rfl : done = 16 := by omega
      simp only [CipherState.lastRounds, encrypt, swap]
      rw [state.words_subkey 17 (by decide), state.words_subkey 16 (by decide)]
  | succ pairs ih =>
      have step := two_rounds state.words block done (by omega)
      have next := ih (done + 2) (by omega) (by omega)
      have first : 14 - 2 * pairs = done := by omega
      have second : 15 - 2 * pairs = done + 1 := by omega
      simp only [step] at next
      simp only [CipherState.lastRounds, substitute_is_mix, first, second]
      rw [← next]
      rw [state.words_subkey done (by omega), state.words_subkey (done + 1) (by omega)]

theorem encrypt_is_textbook (state : CipherState) (block : Block) :
    state.encrypt block = encrypt state.words block :=
  last_rounds_finish state block 8 0 (by decide) (by decide)

end Bcrypt.Blowfish
