import Bcrypt.Proofs.Blowfish.Rounds
import Mathlib.Algebra.Group.Nat.Defs

/-!
# The three steps of a round

The left half takes up a subkey, the right half takes up what the round function makes
of the left half, and the halves trade places. This is done sixteen times, and then the
last trade is undone and the two last subkeys are taken up. The round function is
arithmetic on four numbers, one from each box, which the bytes of a word choose.
Encryption of a block comes to these steps, one behind the other, for every state and
every block.
-/

set_option autoImplicit false

namespace Bcrypt.Blowfish

open ByteStream Textbook

namespace RoundSteps

section

variable (state : CipherState)

def subkey (index : Fin 18) : UInt32 := state.subkeys[index.val]

/-- The round function, on the bytes of a word from the most significant on. Every box
has 256 entries. The sums are taken modulo the number of words. -/
def mix (word : UInt32) : Nat :=
  let first := state.boxes[(byteOf word 3).val].toNat
  let second := state.boxes[256 + (byteOf word 2).val].toNat
  let third := state.boxes[512 + (byteOf word 1).val].toNat
  let fourth := state.boxes[768 + (byteOf word 0).val].toNat
  (((first + second) % 2 ^ 32 ^^^ third) + fourth) % 2 ^ 32

def takeSubkey (index : Fin 16) (block : Block) : Block :=
  { block with left := block.left ^^^ subkey state (index.castAdd 2) }

def mixIntoRight (block : Block) : Block :=
  { block with right := block.right ^^^ UInt32.ofNat (mix state block.left) }

def rounds (block : Block) : Block :=
  Fin.foldl 16 (fun halves index => swap (mixIntoRight state (takeSubkey state index halves))) block

def encrypt (block : Block) : Block :=
  let last := swap (rounds state block)
  ⟨last.left ^^^ subkey state 17, last.right ^^^ subkey state 16⟩

theorem word_of_box (index place : Nat) (inside : index < 1024) (moved : place = 18 + index) :
    (state.words[place]).toNat = (state.boxes[index]).toNat := by
  subst moved
  rw [state.words_box index inside]

theorem mix_is_arithmetic (word : UInt32) :
    (Textbook.mix state.words word).toNat = mix state word := by
  have first := word_of_box state (byteOf word 3).val (18 + (byteOf word 3).val) (by omega) rfl
  have second :=
    word_of_box state (256 + (byteOf word 2).val) (274 + (byteOf word 2).val) (by omega) (by omega)
  have third :=
    word_of_box state (512 + (byteOf word 1).val) (530 + (byteOf word 1).val) (by omega) (by omega)
  have fourth :=
    word_of_box state (768 + (byteOf word 0).val) (786 + (byteOf word 0).val) (by omega) (by omega)
  rw [Textbook.mix, UInt32.toNat_add, UInt32.toNat_xor, UInt32.toNat_add, first, second, third,
    fourth, mix]

theorem round_has_steps (index : Fin 16) (block : Block) :
    Textbook.round state.words index block =
      swap (mixIntoRight state (takeSubkey state index block)) := by
  rw [Textbook.round, state.words_subkey index.val (by omega), mixIntoRight, ← mix_is_arithmetic,
    UInt32.ofNat_toNat]
  rfl

theorem rounds_are_folded (block : Block) (count : Nat) (bounded : count ≤ 16) :
    Textbook.rounds state.words block count bounded =
      Fin.foldl count (fun halves index =>
        swap (mixIntoRight state (takeSubkey state (index.castLE bounded) halves))) block := by
  induction count with
  | zero => rw [Textbook.rounds, Fin.foldl_zero]
  | succ count ih =>
      rw [Textbook.rounds, ih, round_has_steps, Fin.foldl_succ_last]
      rfl

end

end RoundSteps

/-- Encryption is sixteen rounds of three steps each, and the whitening after them. -/
theorem encrypt_takes_step_after_step (state : CipherState) (left right : UInt32) :
    state.encrypt ⟨left, right⟩ = RoundSteps.encrypt state ⟨left, right⟩ := by
  have rounds : Textbook.rounds state.words ⟨left, right⟩ 16 (Nat.le_refl 16) =
      RoundSteps.rounds state ⟨left, right⟩ :=
    RoundSteps.rounds_are_folded state ⟨left, right⟩ 16 (Nat.le_refl 16)
  rw [encrypt_is_textbook, Textbook.encrypt, rounds, state.words_subkey 17 (by decide),
    state.words_subkey 16 (by decide)]
  rfl

end Bcrypt.Blowfish
