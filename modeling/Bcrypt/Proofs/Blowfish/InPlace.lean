import Bcrypt.Proofs.Blowfish.Inversion
import Bcrypt.Proofs.PasswordDigest
import Mathlib.Data.List.GetD

/-!
# Buffers encrypted where they stand

A buffer of whole blocks is encrypted by writing each block, encrypted, over the one
that was there; any other buffer is refused before anything is written. A block is read
and written in its own eight bytes, so the blocks do not see each other: not in one pass
over the buffer, not in many, and not across the seam of two buffers.
-/

set_option autoImplicit false

namespace Bcrypt.Blowfish

open ByteStream
open Reference (blockBytes)

/-- The two words in eight bytes of a buffer, most significant byte first. -/
def blockAt (buffer : List UInt8) (number : Nat) : Block :=
  let stream position := buffer.getD position 0
  ⟨wordAt stream (2 * number), wordAt stream (2 * number + 1)⟩

structure BlockByBlock (change : Block → Block) (before after : List UInt8) : Prop where
  length : after.length = before.length
  bytes : ∀ number < before.length / 8,
    (after.drop (8 * number)).take 8 = blockBytes (change (blockAt before number))

theorem word_at_behind (front rest : List UInt8) {passed : Nat} (sized : front.length = 8 * passed)
    (index : Nat) :
    wordAt (fun position => (front ++ rest).getD position 0) (2 * passed + index) =
      wordAt (fun position => rest.getD position 0) index := by
  have byte (place : Nat) :
      (front ++ rest).getD (4 * (2 * passed + index) + place) 0 =
        rest.getD (4 * index + place) 0 := by
    rw [List.getD_append_right _ _ _ _ (by omega)]
    congr 1
    omega
  have first := byte 0
  simp only [Nat.add_zero] at first
  rw [wordAt, wordAt, first, byte 1, byte 2, byte 3]

theorem block_at_behind (front rest : List UInt8) {passed : Nat} (sized : front.length = 8 * passed)
    (number : Nat) :
    blockAt (front ++ rest) (passed + number) = blockAt rest number := by
  have left := word_at_behind front rest sized (2 * number)
  have right := word_at_behind front rest sized (2 * number + 1)
  rw [← Nat.add_assoc] at right
  rw [blockAt, blockAt, Nat.mul_add, left, right]

theorem block_at_front (block : Block) (rest : List UInt8) :
    blockAt (block.toBytes ++ rest) 0 = block := by
  have left : wordAt (fun position => (block.toBytes ++ rest).getD position 0) 0 = block.left := by
    rw [word_at_eq_of_bytes]
    exact Word.of_bytes_to_bytes block.left
  have right :
      wordAt (fun position => (block.toBytes ++ rest).getD position 0) 1 = block.right := by
    rw [word_at_eq_of_bytes]
    exact Word.of_bytes_to_bytes block.right
  rw [blockAt]
  exact Block.ext left right

theorem block_of_eight (bytes : List UInt8) (sized : bytes.length = 8) :
    ∃ block : Block, bytes = block.toBytes := by
  match bytes, sized with
  | [b0, b1, b2, b3, b4, b5, b6, b7], _ =>
      refine ⟨⟨Word.ofBytes b0 b1 b2 b3, Word.ofBytes b4 b5 b6 b7⟩, ?_⟩
      rw [Block.toBytes, Word.to_bytes_of_bytes, Word.to_bytes_of_bytes]
      rfl

theorem blocks_of_whole {count : Nat} {buffer : List UInt8} (whole : buffer.length = 8 * count) :
    ∃ blocks : List Block, blocks.length = count ∧ buffer = blocks.flatMap Block.toBytes := by
  induction count generalizing buffer with
  | zero => exact ⟨[], rfl, List.length_eq_zero_iff.mp whole⟩
  | succ count ih =>
      have front : (buffer.take 8).length = 8 := by
        rw [List.length_take]
        omega
      have rest : (buffer.drop 8).length = 8 * count := by
        rw [List.length_drop]
        omega
      rcases block_of_eight _ front with ⟨block, first⟩
      rcases ih rest with ⟨blocks, counted, others⟩
      refine ⟨block :: blocks, by rw [List.length_cons, counted], ?_⟩
      rw [List.flatMap_cons, ← first, ← others, List.take_append_drop]

theorem bytes_of_blocks_length (blocks : List Block) :
    (blocks.flatMap Block.toBytes).length = 8 * blocks.length := by
  induction blocks with
  | nil => rfl
  | cons block blocks ih =>
      rw [List.flatMap_cons, List.length_append, Block.to_bytes_length, ih, List.length_cons]
      omega

theorem block_of_blocks {blocks : List Block} {number : Nat} {block : Block}
    (found : blocks[number]? = some block) :
    blockAt (blocks.flatMap Block.toBytes) number = block ∧
      ((blocks.flatMap Block.toBytes).drop (8 * number)).take 8 = block.toBytes := by
  induction blocks generalizing number with
  | nil => contradiction
  | cons first blocks ih =>
      rw [List.flatMap_cons]
      cases number with
      | zero =>
          obtain rfl := Option.some.inj found
          exact ⟨block_at_front first _, List.take_left' first.to_bytes_length⟩
      | succ number =>
          have next := ih found
          have place : 8 * (number + 1) = first.toBytes.length + 8 * number := by
            rw [Block.to_bytes_length]
            omega
          rw [Nat.add_comm number 1,
            block_at_behind _ _ (show first.toBytes.length = 8 * 1 from rfl), Nat.add_comm 1 number,
            place, List.drop_length_add_append]
          exact next

theorem block_by_block_of_blocks (change : Block → Block) (blocks : List Block) :
    BlockByBlock change (blocks.flatMap Block.toBytes)
      ((blocks.map change).flatMap Block.toBytes) := by
  constructor
  · rw [bytes_of_blocks_length, bytes_of_blocks_length, List.length_map]
  · intro number inside
    rw [bytes_of_blocks_length, Nat.mul_div_cancel_left _ (by decide)] at inside
    have found := List.getElem?_eq_getElem inside
    have changed : (blocks.map change)[number]? = some (change blocks[number]) := by
      rw [List.getElem?_map, found, Option.map_some]
    rw [(block_of_blocks found).1, (block_of_blocks changed).2, block_bytes]

/-- A program that works on a buffer where it stands. What is written before an error
remains written. -/
abbrev OnBuffer := ExceptT Error (StateM (List UInt8))

def OnBuffer.runOn {α : Type} (program : OnBuffer α) (buffer : List UInt8) :
    Except Error α × List UInt8 :=
  (program.run.run buffer).run

theorem OnBuffer.run_on_bind {α β : Type} {program : OnBuffer α} {buffer after : List UInt8}
    {value : α} (ran : program.runOn buffer = (.ok value, after)) (next : α → OnBuffer β) :
    (program >>= next).runOn buffer = (next value).runOn after := by
  change program buffer = _ at ran
  change (ExceptT.bindCont next (program buffer).1 : StateM (List UInt8) (Except Error β))
      (program buffer).2 = _
  rw [ran]
  rfl

def putBlock (number : Nat) (block : Block) (buffer : List UInt8) : List UInt8 :=
  buffer.take (8 * number) ++ block.toBytes ++ buffer.drop (8 * number + 8)

namespace CipherState

def replaceBlock (state : CipherState) (number : Nat) : OnBuffer Unit :=
  modify fun buffer => putBlock number (state.encrypt (blockAt buffer number)) buffer

def replaceBlocks (state : CipherState) : (number count : Nat) → OnBuffer Unit
  | _, 0 => pure ()
  | number, count + 1 => do
      state.replaceBlock number
      state.replaceBlocks (number + 1) count

def encryptInPlace (state : CipherState) : OnBuffer Unit := do
  let size := (← get).length
  if size % Block.size = 0 then
    state.replaceBlocks 0 (size / Block.size)
  else
    throw (.internal ("stream of " ++ toString size ++ " bytes is not a whole number of blocks"))

end CipherState

section

variable (state : CipherState)

theorem replace_block_runs (front : List UInt8) {number : Nat} (sized : front.length = 8 * number)
    (block : Block) (rest : List UInt8) :
    (state.replaceBlock number).runOn (front ++ (block.toBytes ++ rest)) =
      (.ok (), front ++ ((state.encrypt block).toBytes ++ rest)) := by
  have read : blockAt (front ++ (block.toBytes ++ rest)) number = block := by
    rw [← Nat.add_zero number, block_at_behind front _ sized, block_at_front]
  change (Except.ok (), putBlock number (state.encrypt (blockAt _ number)) _) = _
  rw [read, putBlock, List.take_left' sized, ← sized, List.drop_length_add_append,
    List.drop_left' block.to_bytes_length, List.append_assoc]

/-- The blocks in front of the given one are already encrypted. -/
theorem replace_blocks_run (front : List UInt8) (number : Nat) (sized : front.length = 8 * number)
    (blocks : List Block) :
    (state.replaceBlocks number blocks.length).runOn (front ++ blocks.flatMap Block.toBytes) =
      (.ok (), front ++ (blocks.map state.encrypt).flatMap Block.toBytes) := by
  induction blocks generalizing front number with
  | nil => rfl
  | cons block blocks ih =>
      have longer : (front ++ (state.encrypt block).toBytes).length = 8 * (number + 1) := by
        rw [List.length_append, sized, Block.to_bytes_length]
        omega
      have next := ih (front ++ (state.encrypt block).toBytes) (number + 1) longer
      have first := replace_block_runs state front sized block (blocks.flatMap Block.toBytes)
      rw [List.flatMap_cons, List.length_cons, CipherState.replaceBlocks,
        OnBuffer.run_on_bind first, ← List.append_assoc, next, List.map_cons, List.flatMap_cons,
        List.append_assoc]

theorem encrypt_in_place_of_blocks (blocks : List Block) :
    state.encryptInPlace.runOn (blocks.flatMap Block.toBytes) =
      (.ok (), (blocks.map state.encrypt).flatMap Block.toBytes) := by
  have length := bytes_of_blocks_length blocks
  have whole : (blocks.flatMap Block.toBytes).length % Block.size = 0 := by
    rw [length, Block.size, Nat.mul_mod_right]
  have count : (blocks.flatMap Block.toBytes).length / Block.size = blocks.length := by
    rw [length, Block.size, Nat.mul_div_cancel_left _ (by decide)]
  have read : (get : OnBuffer (List UInt8)).runOn (blocks.flatMap Block.toBytes) = (.ok _, _) := rfl
  rw [CipherState.encryptInPlace, OnBuffer.run_on_bind read, if_pos whole, count]
  exact replace_blocks_run state [] 0 rfl blocks

theorem encrypt_in_place_of_partial (buffer : List UInt8)
    (broken : buffer.length % Block.size ≠ 0) :
    state.encryptInPlace.runOn buffer =
      (.error (.internal
        ("stream of " ++ toString buffer.length ++ " bytes is not a whole number of blocks")),
        buffer) := by
  have read : (get : OnBuffer (List UInt8)).runOn buffer = (.ok buffer, buffer) := rfl
  rw [CipherState.encryptInPlace, OnBuffer.run_on_bind read, if_neg broken]
  rfl

theorem blocks_of_buffer {size : Nat} (whole : size % Block.size = 0) (buffer : Vector UInt8 size) :
    ∃ blocks : List Block, buffer.toList = blocks.flatMap Block.toBytes := by
  have counted : buffer.toList.length = 8 * (size / 8) := by
    change size % 8 = 0 at whole
    rw [Vector.length_toList]
    omega
  rcases blocks_of_whole counted with ⟨blocks, -, held⟩
  exact ⟨blocks, held⟩

theorem encrypt_stream_in_place {size : Nat} (whole : size % Block.size = 0)
    (buffer : Vector UInt8 size) :
    ∃ after, state.encryptStream buffer = .ok after ∧
      state.encryptInPlace.runOn buffer.toList = (.ok (), after.toList) ∧
      BlockByBlock state.encrypt buffer.toList after.toList := by
  rcases blocks_of_buffer whole buffer with ⟨blocks, held⟩
  rcases state.encrypt_stream_of_blocks buffer blocks held with ⟨after, encrypted, bytes⟩
  refine ⟨after, encrypted, ?_, ?_⟩
  · rw [held, bytes]
    exact encrypt_in_place_of_blocks state blocks
  · rw [held, bytes]
    exact block_by_block_of_blocks state.encrypt blocks

theorem encrypt_times_block_by_block {size : Nat} (whole : size % Block.size = 0)
    (buffer : Vector UInt8 size) (count : Nat) :
    ∃ after, encryptTimes state buffer count = .ok after ∧
      BlockByBlock (state.encrypt)^[count] buffer.toList after.toList := by
  rcases blocks_of_buffer whole buffer with ⟨blocks, held⟩
  rcases state.encrypt_times_of_blocks buffer blocks held count with ⟨after, encrypted, bytes⟩
  refine ⟨after, encrypted, ?_⟩
  rw [held, bytes]
  exact block_by_block_of_blocks _ blocks

theorem encrypt_in_place_of_buffers (buffers : List (List UInt8))
    (whole : ∀ buffer ∈ buffers, buffer.length % Block.size = 0) :
    ∃ blocks : List Block, buffers.flatten = blocks.flatMap Block.toBytes ∧
      (buffers.map fun buffer => (state.encryptInPlace.runOn buffer).2).flatten =
        (blocks.map state.encrypt).flatMap Block.toBytes := by
  induction buffers with
  | nil => exact ⟨[], rfl, rfl⟩
  | cons buffer buffers ih =>
      have others := fun other inside => whole other (List.mem_cons_of_mem buffer inside)
      rcases ih others with ⟨rest, joined, encrypted⟩
      rcases blocks_of_buffer (whole buffer List.mem_cons_self) ⟨buffer.toArray, rfl⟩ with
        ⟨blocks, held⟩
      change buffer = _ at held
      refine ⟨blocks ++ rest, ?_, ?_⟩
      · rw [List.flatten_cons, joined, List.flatMap_append, held]
      · rw [List.map_cons, List.flatten_cons, encrypted, held, encrypt_in_place_of_blocks,
          List.map_append, List.flatMap_append]

theorem encrypt_stream_undone {size : Nat} (buffer after : Vector UInt8 size)
    (encrypted : state.encryptStream buffer = .ok after) :
    state.reversed.encryptStream after = .ok buffer := by
  by_cases whole : size % Block.size = 0
  · rcases blocks_of_buffer whole buffer with ⟨blocks, held⟩
    rcases state.encrypt_stream_of_blocks buffer blocks held with ⟨written, succeeded, bytes⟩
    obtain rfl : written = after := Except.ok.inj (succeeded.symm.trans encrypted)
    rcases state.reversed.encrypt_stream_of_blocks written _ bytes with
      ⟨restored, again, restoredBytes⟩
    have undone : state.reversed.encrypt ∘ state.encrypt = id :=
      funext (reversed_encrypt_encrypt state)
    rw [List.map_map, undone, List.map_id, ← held] at restoredBytes
    rw [again, Vector.toList_inj.mp restoredBytes]
  · rw [CipherState.encryptStream, if_neg whole] at encrypted
    contradiction

end

/-- A buffer of whole blocks is encrypted block by block, whatever state encrypts it;
any other buffer is refused and stays as it was. Buffers of whole blocks may be
encrypted one by one or joined, many passes are as many encryptions of every block, and
two buffers that are encrypted to the same bytes are the same. -/
theorem buffers_are_encrypted_block_by_block (state : CipherState) :
    (∀ (size : Nat) (buffer : Vector UInt8 size), size % Block.size ≠ 0 →
      let refusal :=
        Error.internal ("stream of " ++ toString size ++ " bytes is not a whole number of blocks")
      state.encryptStream buffer = .error refusal ∧
        state.encryptInPlace.runOn buffer.toList = (.error refusal, buffer.toList)) ∧
    (∀ (size : Nat) (buffer : Vector UInt8 size), size % Block.size = 0 →
      ∃ after, state.encryptStream buffer = .ok after ∧
        state.encryptInPlace.runOn buffer.toList = (.ok (), after.toList) ∧
        BlockByBlock state.encrypt buffer.toList after.toList) ∧
    (∀ buffers : List (List UInt8), (∀ buffer ∈ buffers, buffer.length % Block.size = 0) →
      state.encryptInPlace.runOn buffers.flatten =
        (.ok (), (buffers.map fun buffer => (state.encryptInPlace.runOn buffer).2).flatten)) ∧
    (∀ (size count : Nat) (buffer : Vector UInt8 size), size % Block.size = 0 →
      ∃ after, encryptTimes state buffer count = .ok after ∧
        BlockByBlock (state.encrypt)^[count] buffer.toList after.toList) ∧
    ∀ (size : Nat) (buffer other : Vector UInt8 size), size % Block.size = 0 →
      state.encryptStream buffer = state.encryptStream other → buffer = other := by
  refine ⟨?_, ?_, ?_, ?_, ?_⟩
  · intro size buffer broken
    refine ⟨if_neg broken, ?_⟩
    have refused := encrypt_in_place_of_partial state buffer.toList
    rw [Vector.length_toList] at refused
    exact refused broken
  · intro size buffer whole
    exact encrypt_stream_in_place state whole buffer
  · intro buffers whole
    rcases encrypt_in_place_of_buffers state buffers whole with ⟨blocks, joined, encrypted⟩
    rw [joined, encrypted]
    exact encrypt_in_place_of_blocks state blocks
  · intro size count buffer whole
    exact encrypt_times_block_by_block state whole buffer count
  · intro size buffer other whole same
    rcases encrypt_stream_in_place state whole buffer with ⟨after, encrypted, -⟩
    have first := encrypt_stream_undone state buffer after encrypted
    have second := encrypt_stream_undone state other after (same.symm.trans encrypted)
    exact Except.ok.inj (first.symm.trans second)

/-- Fifteen bytes are refused, sixteen are encrypted, and two buffers of sixteen are
encrypted like one of thirty-two. -/
theorem fifteen_bytes_are_refused_and_sixteen_encrypted :
    let short : Vector UInt8 15 := Vector.replicate 15 0x61
    let long : Vector UInt8 16 := Vector.replicate 16 0x61
    (15 % Block.size ≠ 0 ∧ CipherState.initial.encryptInPlace.runOn short.toList =
      (.error (.internal "stream of 15 bytes is not a whole number of blocks"), short.toList)) ∧
    (16 % Block.size = 0 ∧ ∃ after, encryptTimes CipherState.initial long 64 = .ok after ∧
      BlockByBlock (CipherState.initial.encrypt)^[64] long.toList after.toList) ∧
    CipherState.initial.encryptInPlace.runOn (long.toList ++ long.toList) =
      (.ok (), (CipherState.initial.encryptInPlace.runOn long.toList).2 ++
        (CipherState.initial.encryptInPlace.runOn long.toList).2) := by
  intro short long
  rcases buffers_are_encrypted_block_by_block CipherState.initial with
    ⟨refused, -, joined, repeated, -⟩
  have both : ∀ buffer ∈ [long.toList, long.toList], buffer.length % Block.size = 0 := by
    intro buffer inside
    simp only [List.mem_cons, List.not_mem_nil, or_false, or_self] at inside
    rw [inside, Vector.length_toList]
    rfl
  have two := joined [long.toList, long.toList] both
  simp only [List.map_cons, List.map_nil, List.flatten_cons, List.flatten_nil,
    List.append_nil] at two
  exact ⟨⟨by decide, (refused 15 short (by decide)).2⟩, ⟨rfl, repeated 16 64 long rfl⟩, two⟩

end Bcrypt.Blowfish
