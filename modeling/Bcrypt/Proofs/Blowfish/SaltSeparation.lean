import Bcrypt.Proofs.Blowfish.Chain
import Bcrypt.Proofs.Blowfish.Inversion

/-!
# Salts are told apart

The final words of an expansion are its running blocks, and a running block tells what
was combined with the one before, since encryption under the words of that moment loses
nothing. The first two steps take up all sixteen bytes of the salt and write the first
four subkeys, so these four already give the salt away.
-/

set_option autoImplicit false

namespace Bcrypt.Blowfish

open ByteStream Textbook

theorem encrypt_injective (words : Words) : Function.Injective (encrypt words) := by
  intro block other same
  rw [← CipherState.words_of_words words, ← encrypt_is_textbook, ← encrypt_is_textbook] at same
  exact Function.LeftInverse.injective (reversed_encrypt_encrypt (.ofWords words)) same

section Feeds

variable {feed other : Nat → Block → Block} {words : Words} {pairs : Nat} (bounded : pairs ≤ 521)
  (same : ∀ index (inside : index < 1042), index < 2 * pairs →
    (chain feed words 521 (Nat.le_refl _)).words[index] =
      (chain other words 521 (Nat.le_refl _)).words[index])

include same

theorem blocks_agree (pair : Nat) (inside : pair < pairs) :
    (chain feed words (pair + 1) (Nat.le_trans inside bounded)).block =
      (chain other words (pair + 1) (Nat.le_trans inside bounded)).block := by
  have left : 2 * pair < 1042 := by omega
  have right : 2 * pair + 1 < 1042 := by omega
  rw [chain_block feed words pair _ left right, chain_block other words pair _ left right,
    same (2 * pair) left (by omega), same (2 * pair + 1) right (by omega)]

theorem stages_agree (count : Nat) (inside : count ≤ pairs) :
    chain feed words count (Nat.le_trans inside bounded) =
      chain other words count (Nat.le_trans inside bounded) := by
  -- A stage is the one before and the block of the step: the words are written from that block.
  induction count with
  | zero => rfl
  | succ count ih =>
      have before := ih (by omega)
      have block := blocks_agree bounded same count inside
      simp only [chain_succ, before] at block ⊢
      rw [block]

/-- Expansions from the same words that agree on the first words in the end took up the
same until then. -/
theorem feeds_agree (pair : Nat) (inside : pair < pairs) :
    let block := (chain feed words pair (Nat.le_trans (Nat.le_of_lt inside) bounded)).block
    feed pair block = other pair block := by
  have before := stages_agree bounded same pair (Nat.le_of_lt inside)
  have block := blocks_agree bounded same pair inside
  -- Both blocks come from the same words now, however many of them have been replaced.
  simp only [chain_succ, before] at block ⊢
  exact encrypt_injective _ block

end Feeds

theorem salt_eq_of_words {salt other : Salt}
    (same : ∀ index < 4,
      wordAt (endless salt.bytes.toList) index = wordAt (endless other.bytes.toList) index) :
    salt = other := by
  have bytes : ∀ position < 4 * 4,
      endless salt.bytes.toList position = endless other.bytes.toList position :=
    streams_agree_of_words_agree same
  apply Salt.ext
  apply Vector.ext
  intro position inside
  have byte := bytes position inside
  rw [endless_of_lt _ position (by simpa using inside),
    endless_of_lt _ position (by simpa using inside)] at byte
  simpa using byte

theorem salt_word_of_feed {salt other : Salt} {pair : Nat} {block : Block}
    (same : saltFeed salt.bytes.toList pair block = saltFeed other.bytes.toList pair block) :
    wordAt (endless salt.bytes.toList) (2 * pair) = wordAt (endless other.bytes.toList) (2 * pair) ∧
      wordAt (endless salt.bytes.toList) (2 * pair + 1) =
        wordAt (endless other.bytes.toList) (2 * pair + 1) := by
  obtain ⟨left, right⟩ := Block.mk.inj same
  exact ⟨(UInt32.xor_right_inj _).mp left, (UInt32.xor_right_inj _).mp right⟩

section Expansion

variable {state : CipherState} {key : List UInt8} {salt other : Salt}
  (same : (state.expandKeyWithSalt key salt).subkeys.toList.take 4 =
    (state.expandKeyWithSalt key other).subkeys.toList.take 4)

include same

theorem first_words_agree (index : Nat) (inside : index < 1042) (first : index < 2 * 2) :
    (chain (saltFeed salt.bytes.toList) (addKey state.words key) 521 (Nat.le_refl _)).words[index] =
      (chain (saltFeed other.bytes.toList) (addKey state.words key) 521
          (Nat.le_refl _)).words[index] := by
  have subkey := congrArg (·[index]?) same
  simp only [List.getElem?_take_of_lt first, Vector.getElem?_toList] at subkey
  rw [Vector.getElem?_eq_getElem (by omega), Vector.getElem?_eq_getElem (by omega), Option.some_inj,
    ← CipherState.words_subkey, ← CipherState.words_subkey] at subkey
  simp only [words_expand_key_with_salt] at subkey
  exact subkey

theorem salt_of_first_subkeys : salt = other := by
  -- Two steps of two words each take up the whole salt.
  have fed (pair : Nat) (inside : pair < 2) :=
    feeds_agree (by decide) (first_words_agree same) pair inside
  obtain ⟨first, second⟩ := salt_word_of_feed (fed 0 (by decide))
  obtain ⟨third, fourth⟩ := salt_word_of_feed (fed 1 (by decide))
  apply salt_eq_of_words
  intro index bounded
  match index with
  | 0 => exact first
  | 1 => exact second
  | 2 => exact third
  | 3 => exact fourth

end Expansion

/-- The first four subkeys of a salted expansion tell the salt, for every state and
every key. So no two salts ever leave the same state behind when a schedule begins. -/
theorem salts_never_collide :
    (∀ (state : CipherState) (key : List UInt8) (salt other : Salt),
      (state.expandKeyWithSalt key salt).subkeys.toList.take 4 =
        (state.expandKeyWithSalt key other).subkeys.toList.take 4 → salt = other) ∧
    ∀ (state : CipherState) (key : List UInt8) (salt other : Salt), salt ≠ other →
      state.reset.expandKeyWithSalt key salt ≠ state.reset.expandKeyWithSalt key other := by
  constructor
  · intro state key salt other same
    exact salt_of_first_subkeys same
  · intro state key salt other different same
    have subkeys : (state.reset.expandKeyWithSalt key salt).subkeys.toList.take 4 =
        (state.reset.expandKeyWithSalt key other).subkeys.toList.take 4 := by rw [same]
    exact different (salt_of_first_subkeys subkeys)

/-- Salts that differ in their last bit, and one salt given in two ways. -/
theorem salts_differ_in_last_bit :
    let salt : Salt := ⟨Vector.replicate 16 0⟩
    let other : Salt := ⟨#v[0, 0, 0, 0, 0, 0, 0, 0, 0, 0, 0, 0, 0, 0, 0, 1]⟩
    let again : Salt := ⟨#v[0, 0, 0, 0, 0, 0, 0, 0, 0, 0, 0, 0, 0, 0, 0, 0]⟩
    (salt ≠ other ∧
      CipherState.initial.reset.expandKeyWithSalt [0x61, 0] salt ≠
        CipherState.initial.reset.expandKeyWithSalt [0x61, 0] other) ∧
      (CipherState.initial.expandKeyWithSalt [0x61, 0] salt).subkeys.toList.take 4 =
        (CipherState.initial.expandKeyWithSalt [0x61, 0] again).subkeys.toList.take 4 ∧
      salt = again := by
  intro salt other again
  have different : salt ≠ other := by decide
  have same : (CipherState.initial.expandKeyWithSalt [0x61, 0] salt).subkeys.toList.take 4 =
      (CipherState.initial.expandKeyWithSalt [0x61, 0] again).subkeys.toList.take 4 := rfl
  obtain ⟨collide, separate⟩ := salts_never_collide
  exact ⟨⟨different, separate _ _ _ _ different⟩, same, collide _ _ _ _ same⟩

end Bcrypt.Blowfish
