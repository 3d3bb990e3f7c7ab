import Bcrypt.Hash
import Mathlib.Logic.Function.Iterate

/-!
# Streams of blocks

A buffer of whole blocks is the bytes of a sequence of blocks. Encrypting the buffer,
once or several times, encrypts each of these blocks on its own.
-/

set_option autoImplicit false

namespace Bcrypt.Blowfish.CipherState

theorem encrypt_blocks_of_blocks (state : CipherState) (blocks : List Block) :
    state.encryptBlocks (blocks.flatMap Block.toBytes) =
      (blocks.map state.encrypt).flatMap Block.toBytes := by
  induction blocks with
  | nil => rfl
  | cons block blocks ih =>
      have bytes : (block :: blocks).flatMap Block.toBytes =
          (block.left >>> 24).toUInt8 :: (block.left >>> 16).toUInt8 ::
            (block.left >>> 8).toUInt8 :: block.left.toUInt8 ::
            (block.right >>> 24).toUInt8 :: (block.right >>> 16).toUInt8 ::
            (block.right >>> 8).toUInt8 :: block.right.toUInt8 ::
            blocks.flatMap Block.toBytes := rfl
      rw [bytes, encryptBlocks, Word.of_bytes_to_bytes, Word.of_bytes_to_bytes, ih]
      rfl

theorem encrypt_stream_of_blocks {size : Nat} (state : CipherState) (buffer : Vector UInt8 size)
    (blocks : List Block) (held : buffer.toList = blocks.flatMap Block.toBytes) :
    ∃ encrypted, state.encryptStream buffer = .ok encrypted ∧
      encrypted.toList = (blocks.map state.encrypt).flatMap Block.toBytes := by
  have whole : size % Block.size = 0 := by
    have length := congrArg List.length held
    simp only [Vector.length_toList, List.length_flatMap, Block.to_bytes_length, List.map_const',
      List.sum_replicate_nat] at length
    simp [length, Block.size]
  rw [encryptStream, if_pos whole]
  refine ⟨_, rfl, ?_⟩
  rw [← encrypt_blocks_of_blocks, ← held]
  rfl

/-- Encrypting a buffer several times never fails on whole blocks, and no block sees another. -/
theorem encrypt_times_of_blocks {size : Nat} (state : CipherState) (buffer : Vector UInt8 size)
    (blocks : List Block) (held : buffer.toList = blocks.flatMap Block.toBytes) (count : Nat) :
    ∃ encrypted, encryptTimes state buffer count = .ok encrypted ∧
      encrypted.toList = (blocks.map (state.encrypt)^[count]).flatMap Block.toBytes := by
  induction count generalizing buffer blocks with
  | zero => exact ⟨buffer, rfl, by simpa using held⟩
  | succ count ih =>
      obtain ⟨once, succeeded, bytes⟩ := encrypt_stream_of_blocks state buffer blocks held
      obtain ⟨encrypted, rest, final⟩ := ih once (blocks.map state.encrypt) bytes
      refine ⟨encrypted, ?_, ?_⟩
      · simp only [encryptTimes, succeeded, rest]
      · rw [final, List.map_map, ← Function.iterate_succ]

end Bcrypt.Blowfish.CipherState
