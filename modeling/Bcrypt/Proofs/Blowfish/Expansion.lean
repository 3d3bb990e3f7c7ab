import Bcrypt.Proofs.Blowfish.KeyStream
import Mathlib.Logic.Function.Iterate

/-!
# The key schedule as one chain of encryptions

The textbook expansion is a single chain over the 1042 words of a state: step `n`
changes the running block, encrypts it with the words as the earlier steps left them,
and writes the two halves over words `2 * n` and `2 * n + 1`. A salt is a stream of
sixteen repeated bytes that runs on through the whole chain. The schedule of a state,
with its two loops over subkeys and boxes and the halves of the salt taking turns, is
carried into that chain word by word.
-/

set_option autoImplicit false

namespace Bcrypt.Blowfish

open ByteStream

namespace Textbook

def replacePair (words : Words) (pair : Nat) (bounded : pair < 521) (block : Block) : Words :=
  (words.set (2 * pair) block.left).set (2 * pair + 1) block.right

@[ext] structure Stage where
  words : Words
  block : Block

/-- One step: what `feed` makes of the running block is encrypted and written over the next pair. -/
def step (feed : Nat → Block → Block) (pair : Nat) (bounded : pair < 521) (stage : Stage) : Stage :=
  let block := encrypt stage.words (feed pair stage.block)
  ⟨replacePair stage.words pair bounded block, block⟩

def chain (feed : Nat → Block → Block) (words : Words) : (count : Nat) → count ≤ 521 → Stage
  | 0, _ => ⟨words, ⟨0, 0⟩⟩
  | count + 1, bounded => step feed count bounded (chain feed words count (by omega))

def saltFeed (salt : List UInt8) (pair : Nat) (block : Block) : Block :=
  ⟨block.left ^^^ wordAt (endless salt) (2 * pair),
    block.right ^^^ wordAt (endless salt) (2 * pair + 1)⟩

def expand (words : Words) (key : List UInt8) : Words :=
  (chain (fun _ block => block) (addKey words key) 521 (Nat.le_refl _)).words

def expandWithSalt (words : Words) (key salt : List UInt8) : Words :=
  (chain (saltFeed salt) (addKey words key) 521 (Nat.le_refl _)).words

def initial : Words := PiDigits.subkeys ++ PiDigits.boxes

def rekeyed (salt key : List UInt8) (words : Words) : Words :=
  expand (expand words key) salt

def schedule (cost : Nat) (salt key : List UInt8) : Words :=
  (rekeyed salt key)^[2 ^ cost] (expandWithSalt initial key salt)

end Textbook

open Textbook

theorem words_set_subkeys (state : CipherState) (pair : Nat) (bounded : pair < 9) (block : Block) :
    (state.setSubkeys pair bounded block).words =
      replacePair state.words pair (by omega) block := by
  simp only [CipherState.setSubkeys, replacePair, CipherState.words]
  rw [Vector.set_append_left (by omega), Vector.set_append_left (by omega)]

theorem words_set_boxes (state : CipherState) (pair : Nat) (bounded : pair < 512) (block : Block) :
    (state.setBoxes pair bounded block).words =
      replacePair state.words (9 + pair) (by omega) block := by
  have left : 2 * (9 + pair) - 18 = 2 * pair := by omega
  have right : 2 * (9 + pair) + 1 - 18 = 2 * pair + 1 := by omega
  simp only [CipherState.setBoxes, replacePair, CipherState.words]
  rw [Vector.set_append_right (by omega) (by omega), Vector.set_append_right (by omega) (by omega)]
  simp only [left, right]

/-- What is combined with the running block before a given step when two blocks take turns. -/
def turn (first second : Block) (pair : Nat) : Block :=
  if pair % 2 = 0 then first else second

theorem turn_next (first second : Block) (pair : Nat) :
    turn first second (pair + 2) = turn first second pair := by
  simp [turn]

section Loops

variable {feed : Nat → Block → Block} {first second : Block}
  (fed : ∀ pair block, feed pair block = block.xor (turn first second pair)) (start : Words)

include fed

/-- The loop invariant over the subkeys: state and running block are those of the chain,
and the block whose turn it is stands in front. -/
theorem refresh_subkeys_follows (state : CipherState) (done count : Nat) (total : done + count = 9)
    (words : state.words = (chain feed start done (by omega)).words) :
    let result :=
      state.refreshSubkeys (chain feed start done (by omega)).block (turn first second done)
        (turn first second (done + 1)) count (by omega)
    result.1.words = (chain feed start 9 (by omega)).words ∧
    result.2 = (chain feed start 9 (by omega)).block := by
  induction count generalizing state done with
  | zero =>
      obtain rfl : done = 9 := by omega
      exact ⟨words, rfl⟩
  | succ count ih =>
      obtain rfl : count = 8 - done := by omega
      have pair : 8 - (8 - done) = done := by omega
      have block :
          state.encrypt ((chain feed start done (by omega)).block.xor (turn first second done)) =
            (chain feed start (done + 1) (by omega)).block := by
        rw [encrypt_is_textbook, words, ← fed]
        rfl
      simp only [CipherState.refreshSubkeys, block, pair]
      rw [← turn_next first second done]
      apply ih
      · rw [words_set_subkeys, words]
        rfl
      · omega

theorem refresh_boxes_follows (state : CipherState) (done count : Nat)
    (total : 9 + done + count = 521)
    (words : state.words = (chain feed start (9 + done) (by omega)).words) :
    (state.refreshBoxes (chain feed start (9 + done) (by omega)).block
        (turn first second (9 + done)) (turn first second (9 + done + 1)) count
        (by omega)).words =
      (chain feed start 521 (Nat.le_refl _)).words := by
  induction count generalizing state done with
  | zero =>
      obtain rfl : done = 512 := by omega
      exact words
  | succ count ih =>
      obtain rfl : count = 511 - done := by omega
      have pair : 511 - (511 - done) = done := by omega
      have block :
          state.encrypt
              ((chain feed start (9 + done) (by omega)).block.xor (turn first second (9 + done))) =
            (chain feed start (9 + (done + 1)) (by omega)).block := by
        rw [encrypt_is_textbook, words, ← fed]
        rfl
      simp only [CipherState.refreshBoxes, block, pair]
      rw [← turn_next first second (9 + done)]
      apply ih
      · rw [words_set_boxes, words]
        rfl
      · omega

theorem words_refresh (state : CipherState) :
    (state.refresh first second).words = (chain feed state.words 521 (Nat.le_refl _)).words := by
  obtain ⟨words, block⟩ := refresh_subkeys_follows fed state.words state 0 9 rfl rfl
  have boxes := refresh_boxes_follows fed state.words _ 0 512 rfl words
  rw [← block] at boxes
  exact boxes

end Loops

theorem turn_same (block : Block) (pair : Nat) : turn block block pair = block := by
  simp [turn]

theorem xor_zero (block : Block) : block.xor .zero = block := by
  simp [Block.xor, Block.zero]

theorem words_expand_key (state : CipherState) (key : List UInt8) :
    (state.expandKey key).words = expand state.words key := by
  have fed (pair : Nat) (block : Block) : block = block.xor (turn .zero .zero pair) := by
    rw [turn_same, xor_zero]
  rw [CipherState.expandKey, words_refresh fed, words_add_key]
  rfl

theorem salt_byte (salt : Salt) (pair place : Nat) (inside : place < 8) :
    endless salt.bytes.toList (8 * pair + place) = salt.bytes[8 * (pair % 2) + place] := by
  have length : salt.bytes.toList.length = 16 := by simp
  have position : (8 * pair + place) % salt.bytes.toList.length =
      (8 * (pair % 2) + place) % salt.bytes.toList.length := by
    rw [length]
    omega
  rw [endless_congr salt.bytes.toList position, endless_of_lt salt.bytes.toList _ (by omega)]
  simp

theorem salt_feed_turns (salt : Salt) (pair : Nat) (block : Block) :
    saltFeed salt.bytes.toList pair block =
      block.xor (turn salt.firstHalf salt.secondHalf pair) := by
  have byte (place : Nat) (inside : place < 8) := salt_byte salt pair place inside
  have left : 4 * (2 * pair) = 8 * pair := by omega
  have right : 4 * (2 * pair + 1) = 8 * pair + 4 := by omega
  simp only [saltFeed, word_at_eq_of_bytes, left, right, Nat.add_assoc, Nat.reduceAdd]
  rw [show endless salt.bytes.toList (8 * pair) = _ from byte 0 (by decide), byte 1 (by decide),
    byte 2 (by decide), byte 3 (by decide), byte 4 (by decide), byte 5 (by decide),
    byte 6 (by decide), byte 7 (by decide)]
  rcases Nat.mod_two_eq_zero_or_one pair with even | odd
  · simp only [even, turn, if_true]
    rfl
  · simp only [odd, turn]
    rfl

theorem words_expand_key_with_salt (state : CipherState) (key : List UInt8) (salt : Salt) :
    (state.expandKeyWithSalt key salt).words =
      expandWithSalt state.words key salt.bytes.toList := by
  rw [CipherState.expandKeyWithSalt, words_refresh (salt_feed_turns salt), words_add_key]
  rfl

theorem words_rekey_once (key : List UInt8) (salt : Salt) :
    Function.Semiconj CipherState.words (CipherState.rekeyOnce key salt)
      (rekeyed salt.bytes.toList key) := by
  intro state
  rw [CipherState.rekeyOnce, words_expand_key, words_expand_key]
  rfl

theorem words_rekey (key : List UInt8) (salt : Salt) (count : Nat) (state : CipherState) :
    (CipherState.rekey key salt count state).words =
      (rekeyed salt.bytes.toList key)^[count] state.words := by
  rw [CipherState.rekey_eq_iterate]
  exact (words_rekey_once key salt).iterate_right count state

/-- The schedule forgets the state before and computes the textbook schedule of the key
and the sixteen bytes of the salt. -/
theorem words_schedule (state : CipherState) (cost : Cost) (salt : Salt) (key : List UInt8) :
    (state.schedule cost salt key).words = schedule cost.value salt.bytes.toList key := by
  have rounds : cost.rounds = 2 ^ cost.value := rfl
  have reset : state.reset.words = initial := rfl
  rw [CipherState.schedule, words_rekey, words_expand_key_with_salt, rounds, reset, schedule]

end Bcrypt.Blowfish
