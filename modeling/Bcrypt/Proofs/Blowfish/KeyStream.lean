import Bcrypt.Proofs.Blowfish.Rekeying
import Bcrypt.Proofs.Blowfish.Rounds

/-!
# The key as an endless stream

A key cycle goes back to the first byte only when the next byte is asked for, so its
index alone does not tell how far it has come. Its relation to the number of bytes read
does: both have the same remainder by the length of the key. From that every word taken
from the cycle is a word of the endless repetition, and an expansion sees of a key the
first 72 bytes of that repetition and nothing else.
-/

set_option autoImplicit false

namespace Bcrypt.Blowfish

open ByteStream

namespace KeyCycle

/-- The cycle stands where `count` bytes of the repeated key have been read. -/
structure HasRead (cycle : KeyCycle) (key : List UInt8) (count : Nat) : Prop where
  same_key : cycle.key = key
  place : cycle.index % key.length = count % key.length

theorem start_has_read (key : List UInt8) (nonempty : key ≠ []) :
    (start key nonempty).HasRead key 0 :=
  ⟨rfl, rfl⟩

theorem next_byte_reads {cycle : KeyCycle} {key : List UInt8} {count : Nat}
    (reached : cycle.HasRead key count) :
    cycle.nextByte.1 = endless key count ∧ cycle.nextByte.2.HasRead key (count + 1) := by
  obtain ⟨rfl, place⟩ := reached
  have positive : 0 < cycle.key.length := List.length_pos_iff.mpr cycle.nonempty
  by_cases inside : cycle.index < cycle.key.length
  · have byte : endless cycle.key count = cycle.key[cycle.index] := by
      rw [endless_congr cycle.key place.symm, endless_of_lt cycle.key cycle.index inside]
    rw [nextByte, dif_pos inside, byte]
    refine ⟨rfl, rfl, ?_⟩
    rw [Nat.add_mod, place, ← Nat.add_mod]
  · -- The index is just past the key: the byte count is a multiple of its length.
    have past : cycle.index = cycle.key.length :=
      Nat.le_antisymm cycle.index_le (Nat.not_lt.mp inside)
    have whole : count % cycle.key.length = 0 := by rw [← place, past, Nat.mod_self]
    have byte : endless cycle.key count = cycle.key.head cycle.nonempty := by
      rw [endless, whole, List.getD_eq_getElem _ _ positive, List.head_eq_getElem]
    rw [nextByte, dif_neg inside, byte]
    refine ⟨rfl, rfl, ?_⟩
    rw [Nat.add_mod, whole, Nat.zero_add, Nat.mod_mod]

theorem next_word_reads {cycle : KeyCycle} {key : List UInt8} {index : Nat}
    (reached : cycle.HasRead key (4 * index)) :
    cycle.nextWord.1 = wordAt (endless key) index ∧
      cycle.nextWord.2.HasRead key (4 * (index + 1)) := by
  obtain ⟨first, reached⟩ := next_byte_reads reached
  obtain ⟨second, reached⟩ := next_byte_reads reached
  obtain ⟨third, reached⟩ := next_byte_reads reached
  obtain ⟨fourth, reached⟩ := next_byte_reads reached
  rw [nextWord, word_at_eq_of_bytes, ← first, ← second, ← third, ← fourth]
  exact ⟨rfl, reached⟩

theorem combine_subkey {cycle : KeyCycle} {key : List UInt8} (subkeys : Vector UInt32 18)
    (count : Nat) (bounded : count ≤ 18) (reached : cycle.HasRead key (4 * (18 - count)))
    (index : Nat) (inside : index < 18) :
    (cycle.combine subkeys count bounded)[index] =
      if index < 18 - count then subkeys[index]
      else subkeys[index] ^^^ wordAt (endless key) index := by
  -- With `count` subkeys left, those before `18 - count` are not touched any more and
  -- the cycle is at the next one.
  induction count generalizing cycle subkeys with
  | zero =>
      rw [combine, if_pos (by omega)]
  | succ count ih =>
      have start : 18 - (count + 1) = 17 - count := by omega
      rw [start] at reached
      obtain ⟨word, next⟩ := next_word_reads reached
      have following : 17 - count + 1 = 18 - count := by omega
      rw [following] at next
      rw [combine, ih _ (by omega) next, word, start]
      rcases Nat.lt_trichotomy index (17 - count) with before | here | after
      · rw [if_pos (by omega), if_pos before, Vector.getElem_set_ne _ _ (by omega)]
      · subst here
        rw [if_pos (by omega), if_neg (Nat.lt_irrefl _), Vector.getElem_set_self]
      · rw [if_neg (by omega), if_neg (by omega), Vector.getElem_set_ne _ _ (by omega)]

end KeyCycle

namespace CipherState

theorem add_key_subkey (state : CipherState) (key : List UInt8) (index : Nat)
    (inside : index < 18) :
    (state.addKey key).subkeys[index] = state.subkeys[index] ^^^ wordAt (endless key) index := by
  by_cases nonempty : key ≠ []
  · simp only [addKey, dif_pos nonempty]
    rw [KeyCycle.combine_subkey state.subkeys 18 (Nat.le_refl _)
      (KeyCycle.start_has_read key nonempty) index inside]
    rw [if_neg (by omega)]
  · obtain rfl : key = [] := Decidable.not_not.mp nonempty
    have zero : wordAt (endless []) index = 0 := by simp [wordAt]
    rw [zero, UInt32.xor_zero, addKey, dif_neg nonempty]

theorem add_key_boxes (state : CipherState) (key : List UInt8) :
    (state.addKey key).boxes = state.boxes := by
  rw [addKey]
  split <;> rfl

section

variable {key other : List UInt8}
  (same : ∀ position < 72, endless key position = endless other position)

include same

theorem add_key_congr (state : CipherState) : state.addKey key = state.addKey other := by
  apply CipherState.ext
  · apply Vector.ext
    intro index inside
    rw [add_key_subkey, add_key_subkey, words_agree_of_streams_agree same index inside]
  · rw [add_key_boxes, add_key_boxes]

theorem expand_key_congr (state : CipherState) : state.expandKey key = state.expandKey other := by
  rw [expandKey, expandKey, add_key_congr same state]

theorem expand_key_with_salt_congr (state : CipherState) (salt : Salt) :
    state.expandKeyWithSalt key salt = state.expandKeyWithSalt other salt := by
  rw [expandKeyWithSalt, expandKeyWithSalt, add_key_congr same state]

theorem rekey_congr (salt : Salt) (count : Nat) (state : CipherState) :
    rekey key salt count state = rekey other salt count state := by
  have once : rekeyOnce key salt = rekeyOnce other salt := by
    funext state
    rw [rekeyOnce, rekeyOnce, expand_key_congr same state]
  rw [rekey_eq_iterate, rekey_eq_iterate, once]

theorem schedule_congr (state : CipherState) (cost : Cost) (salt : Salt) :
    state.schedule cost salt key = state.schedule cost salt other := by
  rw [schedule, schedule, expand_key_with_salt_congr same state.reset salt,
    rekey_congr same salt cost.rounds]

end

/-- An expansion sees all of these bytes: equal subkeys betray equal repetitions. -/
theorem streams_agree_of_add_key (state : CipherState) {key other : List UInt8}
    (same : (state.addKey key).subkeys = (state.addKey other).subkeys) :
    ∀ position < 72, endless key position = endless other position := by
  have words : ∀ index < 18, wordAt (endless key) index = wordAt (endless other) index := by
    intro index inside
    have subkeys : (state.addKey key).subkeys[index] = (state.addKey other).subkeys[index] := by
      rw [same]
    rw [add_key_subkey, add_key_subkey] at subkeys
    exact (UInt32.xor_right_inj _).mp subkeys
  exact streams_agree_of_words_agree words

end CipherState

namespace Textbook

def addKey (words : Words) (key : List UInt8) : Words :=
  Vector.ofFn fun index =>
    if index.val < 18 then words[index] ^^^ wordAt (endless key) index else words[index]

end Textbook

theorem words_add_key (state : CipherState) (key : List UInt8) :
    (state.addKey key).words = Textbook.addKey state.words key := by
  apply Vector.ext
  intro index inside
  simp only [Textbook.addKey, Vector.getElem_ofFn, Fin.getElem_fin]
  by_cases subkey : index < 18
  · rw [if_pos subkey, CipherState.words_subkey _ index subkey,
      CipherState.words_subkey _ index subkey, CipherState.add_key_subkey]
  · obtain ⟨behind, rfl⟩ : ∃ behind, index = 18 + behind := ⟨index - 18, by omega⟩
    rw [if_neg subkey, CipherState.words_box _ behind (by omega),
      CipherState.words_box _ behind (by omega)]
    simp only [CipherState.add_key_boxes]

end Bcrypt.Blowfish
