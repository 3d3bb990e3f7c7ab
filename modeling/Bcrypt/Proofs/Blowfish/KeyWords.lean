import Bcrypt.Proofs.Blowfish.KeyStream

/-!
# The words of a key

A cycle that starts at the first byte of a key yields the words of the endless
repetition, wherever they straddle the end of the key. Its index is never zero again:
after the last byte it stands behind it until another byte is asked for. Two keys
combine with a state in the same way exactly if their repetitions agree on the first 72
bytes, and then no expansion tells them apart.
-/

set_option autoImplicit false

namespace Bcrypt.Blowfish

open ByteStream

namespace KeyCycle

def afterBytes (cycle : KeyCycle) (count : Nat) : KeyCycle :=
  (fun reached => reached.nextByte.2)^[count] cycle

def afterWords (cycle : KeyCycle) (count : Nat) : KeyCycle :=
  (fun reached => reached.nextWord.2)^[count] cycle

def word (cycle : KeyCycle) (index : Nat) : UInt32 :=
  (cycle.afterWords index).nextWord.1

theorem after_bytes_zero (cycle : KeyCycle) : cycle.afterBytes 0 = cycle :=
  rfl

theorem after_words_zero (cycle : KeyCycle) : cycle.afterWords 0 = cycle :=
  rfl

theorem after_bytes_succ (cycle : KeyCycle) (count : Nat) :
    cycle.afterBytes (count + 1) = (cycle.afterBytes count).nextByte.2 :=
  Function.iterate_succ_apply' _ count cycle

theorem after_words_succ (cycle : KeyCycle) (count : Nat) :
    cycle.afterWords (count + 1) = (cycle.afterWords count).nextWord.2 :=
  Function.iterate_succ_apply' _ count cycle

theorem next_word_place (cycle : KeyCycle) :
    cycle.nextWord.2 = cycle.nextByte.2.nextByte.2.nextByte.2.nextByte.2 := by
  rw [nextWord]

theorem after_words_eq (cycle : KeyCycle) (count : Nat) :
    cycle.afterWords count = cycle.afterBytes (4 * count) := by
  induction count with
  | zero => rw [after_words_zero, Nat.mul_zero, after_bytes_zero]
  | succ count ih =>
      rw [after_words_succ, ih, next_word_place, Nat.mul_add_one, after_bytes_succ,
        after_bytes_succ, after_bytes_succ, after_bytes_succ]

section

variable (key : List UInt8) (nonempty : key ≠ [])

theorem after_bytes_has_read (count : Nat) :
    ((start key nonempty).afterBytes count).HasRead key count := by
  induction count with
  | zero => exact start_has_read key nonempty
  | succ count ih =>
      rw [after_bytes_succ]
      exact (next_byte_reads ih).2

theorem start_word (index : Nat) :
    (start key nonempty).word index = wordAt (endless key) index := by
  have reached := after_bytes_has_read key nonempty (4 * index)
  rw [← after_words_eq] at reached
  exact (next_word_reads reached).1

theorem next_byte_index (cycle : KeyCycle) :
    cycle.nextByte.2.index = if cycle.index < cycle.key.length then cycle.index + 1 else 1 := by
  rw [nextByte]
  split <;> rfl

theorem after_bytes_index_succ (count : Nat) :
    ((start key nonempty).afterBytes (count + 1)).index = count % key.length + 1 := by
  have positive : 0 < key.length := List.length_pos_iff.mpr nonempty
  induction count with
  | zero =>
      rw [after_bytes_succ, next_byte_index, Nat.zero_mod]
      exact if_pos positive
  | succ count ih =>
      have next : (count + 1) % key.length = (count % key.length + 1) % key.length :=
        (Nat.mod_add_mod count _ 1).symm
      rw [after_bytes_succ, next_byte_index,
        (after_bytes_has_read key nonempty (count + 1)).same_key, ih, next]
      -- The byte just read is the last one of the key, or it is not.
      by_cases inside : count % key.length + 1 < key.length
      · rw [if_pos inside, Nat.mod_eq_of_lt inside]
      · have bounded : count % key.length < key.length := Nat.mod_lt count positive
        have past : count % key.length + 1 = key.length := by omega
        rw [if_neg inside, past, Nat.mod_self]

theorem after_bytes_index (count : Nat) :
    ((start key nonempty).afterBytes count).index =
      if count = 0 then 0 else (count - 1) % key.length + 1 := by
  cases count with
  | zero => rfl
  | succ count => exact after_bytes_index_succ key nonempty count

theorem after_bytes_index_le (count : Nat) :
    ((start key nonempty).afterBytes count).index ≤ key.length := by
  have bounded := ((start key nonempty).afterBytes count).index_le
  rw [(after_bytes_has_read key nonempty count).same_key] at bounded
  exact bounded

end

end KeyCycle

theorem endless_mem (key : List UInt8) (nonempty : key ≠ []) (position : Nat) :
    key[position % key.length]? = some (endless key position) := by
  have inside := Nat.mod_lt position (List.length_pos_iff.mpr nonempty)
  rw [endless, List.getD_eq_getElem _ _ inside, List.getElem?_eq_getElem inside]

/-- No state and no salt tells the keys apart. -/
structure SameEffect (key other : List UInt8) : Prop where
  added : ∀ state : CipherState, state.addKey key = state.addKey other
  expanded : ∀ state : CipherState, state.expandKey key = state.expandKey other
  salted : ∀ (state : CipherState) salt,
    state.expandKeyWithSalt key salt = state.expandKeyWithSalt other salt

theorem same_effect_of_streams {key other : List UInt8}
    (same : ∀ position < 72, endless key position = endless other position) :
    SameEffect key other :=
  ⟨CipherState.add_key_congr same, CipherState.expand_key_congr same,
    CipherState.expand_key_with_salt_congr same⟩

theorem same_effect_of_copies (key : List UInt8) (copies : Nat) :
    SameEffect key (List.replicate (copies + 1) key).flatten := by
  apply same_effect_of_streams
  intro position _
  exact (endless_copies key copies position).symm

/-- A key that is not empty enters word by word as its endless repetition, read by a
cycle whose index never leaves the key; an empty key does not enter. Only the subkeys
are changed. All that any state, with or without a salt, can show of a key are the first
72 bytes of the repetition, which are the same for any number of copies; and every state
shows them. -/
theorem keys_enter_as_repeated :
    (∀ (key : List UInt8) (nonempty : key ≠ []),
      let cycle := KeyCycle.start key nonempty
      (∀ position, key[position % key.length]? = some (endless key position)) ∧
      (∀ index, cycle.word index = wordAt (endless key) index ∧
        cycle.afterWords index = cycle.afterBytes (4 * index)) ∧
      (∀ count,
        (cycle.afterBytes count).index =
          (if count = 0 then 0 else (count - 1) % key.length + 1) ∧
        (cycle.afterBytes count).index ≤ key.length) ∧
      ∀ state : CipherState, (state.addKey key).boxes = state.boxes ∧
        ∀ index (inside : index < 18),
          (state.addKey key).subkeys[index] = state.subkeys[index] ^^^ cycle.word index) ∧
    (∀ state : CipherState, state.addKey [] = state) ∧
    (∀ key other, (∀ position < 72, endless key position = endless other position) →
      SameEffect key other) ∧
    (∀ key copies, SameEffect key (List.replicate (copies + 1) key).flatten) ∧
    ∀ (state : CipherState) (key other : List UInt8), state.addKey key = state.addKey other →
      ∀ position < 72, endless key position = endless other position := by
  refine ⟨?_, ?_, ?_, ?_, ?_⟩
  · intro key nonempty cycle
    refine ⟨endless_mem key nonempty, ?_, ?_, ?_⟩
    · intro index
      exact ⟨KeyCycle.start_word key nonempty index, cycle.after_words_eq index⟩
    · intro count
      exact ⟨KeyCycle.after_bytes_index key nonempty count,
        KeyCycle.after_bytes_index_le key nonempty count⟩
    · intro state
      refine ⟨state.add_key_boxes key, ?_⟩
      intro index inside
      rw [state.add_key_subkey key index inside, KeyCycle.start_word]
  · intro state
    exact dif_neg (not_not_intro rfl)
  · intro key other same
    exact same_effect_of_streams same
  · intro key copies
    exact same_effect_of_copies key copies
  · intro state key other same
    exact state.streams_agree_of_add_key (congrArg CipherState.subkeys same)

/-- The second word of a key of three bytes straddles its end. -/
theorem keys_enter_as_repeated_three_bytes :
    let key : List UInt8 := [0x61, 0x62, 0x63]
    ∃ nonempty : key ≠ [],
      (KeyCycle.start key nonempty).word 1 = 0x62636162 ∧
      ((KeyCycle.start key nonempty).afterBytes 3).index = 3 ∧
      (∀ position < 72, endless key position = endless (key ++ key) position) ∧
      SameEffect key (key ++ key) ∧
      CipherState.initial.addKey key = CipherState.initial.addKey (key ++ key) := by
  intro key
  have nonempty : key ≠ [] := by decide
  rcases keys_enter_as_repeated with ⟨enters, _, alike, _, shown⟩
  rcases enters key nonempty with ⟨_, words, indices, _⟩
  have copied : ∀ position < 72, endless key position = endless (key ++ key) position := by decide
  have same := alike key (key ++ key) copied
  have added := same.added CipherState.initial
  refine ⟨nonempty, ?_, ?_, shown _ _ _ added, same, added⟩
  · rw [(words 1).1]
    decide
  · exact (indices 3).1

end Bcrypt.Blowfish
