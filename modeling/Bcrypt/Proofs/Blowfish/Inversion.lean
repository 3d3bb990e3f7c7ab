import Bcrypt.Proofs.Blowfish.Rounds
import Mathlib.Logic.Function.Basic

/-!
# Encryption undone

Encryption with the subkeys in reverse order undoes encryption. No round function is
ever inverted: a round mixes one half into the other, and the same mixing once more
takes it out again. Each round of the reversed state takes back one round, and between
two rounds the halves carry two neighbouring subkeys, as they do after the last round.
-/

set_option autoImplicit false

namespace Bcrypt.Blowfish

open Textbook

namespace CipherState

def reversed (state : CipherState) : CipherState :=
  { state with subkeys := state.subkeys.reverse }

theorem reversed_reversed (state : CipherState) : state.reversed.reversed = state := by
  simp [reversed]

theorem reversed_subkey (state : CipherState) (index other : Nat) (bounded : index < 18)
    (otherBounded : other < 18) (total : index + other = 17) :
    state.reversed.words[index] = state.words[other] := by
  obtain rfl : other = 17 - index := by omega
  rw [words_subkey _ index bounded, words_subkey _ (17 - index) otherBounded]
  exact Vector.getElem_reverse bounded

theorem reversed_mix (state : CipherState) (word : UInt32) :
    mix state.reversed.words word = mix state.words word := by
  rw [← substitute_is_mix, ← substitute_is_mix]
  rfl

end CipherState

namespace Textbook

def whiten (words : Words) (index : Nat) (bounded : index ≤ 16) (block : Block) : Block :=
  ⟨block.left ^^^ words[index + 1], block.right ^^^ words[index]⟩

theorem encrypt_whitens (words : Words) (block : Block) :
    encrypt words block = whiten words 16 (by decide) (swap (rounds words block 16 (by decide))) :=
  rfl

end Textbook

theorem xor_twice (word mask : UInt32) : word ^^^ mask ^^^ mask = word := by
  rw [UInt32.xor_assoc, UInt32.xor_self, UInt32.xor_zero]

/-- One round of the reversed state takes back one round, and the whitening moves down
by a subkey. -/
theorem round_undone (state : CipherState) (block : Block) (index done : Nat)
    (total : index + done = 15) :
    Textbook.round state.reversed.words ⟨done, by omega⟩
        (whiten state.words (index + 1) (by omega)
          (swap (Textbook.round state.words ⟨index, by omega⟩ block))) =
      whiten state.words index (by omega) (swap block) := by
  have subkey := state.reversed_subkey done (index + 2) (by omega) (by omega) (by omega)
  simp only [Textbook.round, swap, whiten, subkey, xor_twice, CipherState.reversed_mix]
  congr 1
  -- The mixing is taken out from under the subkey that was combined after it.
  rw [UInt32.xor_assoc, UInt32.xor_comm (state.words[index + 1]), ← UInt32.xor_assoc, xor_twice]

theorem rounds_undone (state : CipherState) (block : Block) (left done : Nat)
    (total : left + done = 16) :
    rounds state.reversed.words (encrypt state.words block) done (by omega) =
      whiten state.words left (by omega) (swap (rounds state.words block left (by omega))) := by
  -- After `done` rounds of the reversed state the first `left` rounds of the other
  -- remain to be taken back.
  induction done generalizing left with
  | zero =>
      obtain rfl : left = 16 := by omega
      exact encrypt_whitens state.words block
  | succ done ih =>
      have before := ih (left + 1) (by omega)
      have step :=
        round_undone state (rounds state.words block left (by omega)) left done (by omega)
      rw [rounds, before]
      exact step

theorem reversed_encrypt_encrypt (state : CipherState) (block : Block) :
    state.reversed.encrypt (state.encrypt block) = block := by
  have undone := rounds_undone state block 0 16 (by decide)
  have first := state.reversed_subkey 17 0 (by decide) (by decide) (by decide)
  have second := state.reversed_subkey 16 1 (by decide) (by decide) (by decide)
  rw [encrypt_is_textbook, encrypt_is_textbook, encrypt_whitens, undone]
  simp only [rounds, swap, whiten, first, second, xor_twice]

theorem encrypt_reversed_encrypt (state : CipherState) (block : Block) :
    state.encrypt (state.reversed.encrypt block) = block := by
  have undone := reversed_encrypt_encrypt state.reversed block
  rwa [state.reversed_reversed] at undone

/-- Whatever the subkeys and the boxes, encryption permutes the blocks, and the state
with the same boxes and the reversed subkeys takes it back, in either order. -/
theorem encrypt_bijective (state : CipherState) :
    Function.Bijective state.encrypt ∧
      (∀ left right, state.reversed.encrypt (state.encrypt ⟨left, right⟩) = ⟨left, right⟩) ∧
      ∀ left right, state.encrypt (state.reversed.encrypt ⟨left, right⟩) = ⟨left, right⟩ := by
  refine ⟨⟨?_, ?_⟩, ?_, ?_⟩
  · exact Function.LeftInverse.injective (reversed_encrypt_encrypt state)
  · exact Function.RightInverse.surjective (encrypt_reversed_encrypt state)
  · intro left right
    exact reversed_encrypt_encrypt state ⟨left, right⟩
  · intro left right
    exact encrypt_reversed_encrypt state ⟨left, right⟩

end Bcrypt.Blowfish
