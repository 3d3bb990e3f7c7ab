import Bcrypt.Proofs.Blowfish.Expansion
import Mathlib.Data.Nat.Init

/-!
# An expansion seen from within

Each encryption of an expansion reads the words that the ones before it have replaced. A
run of the chain lists the states and the running blocks between the steps: word `index`
is replaced in step `index / 2`, keeps its first value until then and its last value
from then on. Both expansions are such runs, and differ in what is combined with the
running block alone.
-/

set_option autoImplicit false

namespace Bcrypt.Blowfish

open Textbook

section Words

variable (feed : Nat → Block → Block) (words : Words)

theorem chain_succ (pair : Nat) (bounded : pair < 521) :
    let before := chain feed words pair (Nat.le_of_lt bounded)
    let block := encrypt before.words (feed pair before.block)
    chain feed words (pair + 1) bounded = ⟨replacePair before.words pair bounded block, block⟩ :=
  rfl

theorem chain_left_word (pair : Nat) (bounded : pair < 521) (left : 2 * pair < 1042) :
    (chain feed words (pair + 1) bounded).words[2 * pair] =
      (chain feed words (pair + 1) bounded).block.left := by
  simp only [chain_succ, replacePair]
  rw [Vector.getElem_set_ne _ _ (by omega), Vector.getElem_set_self]

theorem chain_right_word (pair : Nat) (bounded : pair < 521) (right : 2 * pair + 1 < 1042) :
    (chain feed words (pair + 1) bounded).words[2 * pair + 1] =
      (chain feed words (pair + 1) bounded).block.right := by
  simp only [chain_succ, replacePair]
  rw [Vector.getElem_set_self]

theorem chain_other_word (pair : Nat) (bounded : pair < 521) (index : Nat) (inside : index < 1042)
    (other : index / 2 ≠ pair) :
    (chain feed words (pair + 1) bounded).words[index] =
      (chain feed words pair (Nat.le_of_lt bounded)).words[index] := by
  simp only [chain_succ, replacePair]
  rw [Vector.getElem_set_ne _ _ (by omega), Vector.getElem_set_ne _ _ (by omega)]

theorem chain_word_before (count : Nat) (bounded : count ≤ 521) (index : Nat)
    (inside : index < 1042) (waiting : count ≤ index / 2) :
    (chain feed words count bounded).words[index] = words[index] := by
  induction count with
  | zero => rfl
  | succ count ih =>
      rw [chain_other_word feed words count bounded index inside (by omega)]
      exact ih (by omega) (by omega)

theorem chain_word_after (count later : Nat) (bounded : later ≤ 521) (reached : count ≤ later)
    (index : Nat) (inside : index < 1042) (replaced : index / 2 < count) :
    (chain feed words later bounded).words[index] =
      (chain feed words count (Nat.le_trans reached bounded)).words[index] := by
  induction later, reached using Nat.le_induction with
  | base => rfl
  | succ later reached ih =>
      rw [chain_other_word feed words later bounded index inside (by omega)]
      exact ih (by omega)

theorem chain_word (count : Nat) (bounded : count ≤ 521) (index : Nat) (inside : index < 1042) :
    (chain feed words count bounded).words[index] =
      if index < 2 * count then (chain feed words 521 (Nat.le_refl _)).words[index]
      else words[index] := by
  by_cases replaced : index < 2 * count
  · rw [if_pos replaced,
      chain_word_after feed words count 521 (Nat.le_refl _) bounded index inside (by omega)]
  · rw [if_neg replaced, chain_word_before feed words count bounded index inside (by omega)]

theorem chain_block (pair : Nat) (bounded : pair < 521) (left : 2 * pair < 1042)
    (right : 2 * pair + 1 < 1042) :
    (chain feed words (pair + 1) bounded).block =
      ⟨(chain feed words 521 (Nat.le_refl _)).words[2 * pair],
        (chain feed words 521 (Nat.le_refl _)).words[2 * pair + 1]⟩ := by
  rw [chain_word_after feed words (pair + 1) 521 (Nat.le_refl _) bounded _ left (by omega),
    chain_word_after feed words (pair + 1) 521 (Nat.le_refl _) bounded _ right (by omega),
    chain_left_word, chain_right_word]

end Words

/-- The states and the running blocks of an expansion from the given words: in each step
the running block, as `feed` changes it, is encrypted with the state as it stands and
then written over the next pair of words. -/
structure Run (feed : Nat → Block → Block) (words : Words) (states : Nat → CipherState)
    (blocks : Nat → Block) : Prop where
  first_state : (states 0).words = words
  first_block : blocks 0 = ⟨0, 0⟩
  encrypted : ∀ pair < 521, blocks (pair + 1) = (states pair).encrypt (feed pair (blocks pair))
  stored : ∀ pair (bounded : pair < 521),
    (states (pair + 1)).words = replacePair (states pair).words pair bounded (blocks (pair + 1))

/-- There is a run from the given words, and every such run ends in the given state. On
the way it replaces each word once, in the order of the words. -/
structure Expands (feed : Nat → Block → Block) (words : Words) (final : CipherState) : Prop where
  run : ∃ states blocks, Run feed words states blocks
  ends : ∀ states blocks, Run feed words states blocks → states 521 = final
  in_order : ∀ states blocks, Run feed words states blocks → ∀ count ≤ 521,
    ∀ index (inside : index < 1042),
    (states count).words[index] = if index < 2 * count then final.words[index] else words[index]

namespace CipherState

def ofWords (words : Words) : CipherState :=
  ⟨Vector.ofFn fun index : Fin 18 => words[index.val],
    Vector.ofFn fun index : Fin 1024 => words[18 + index.val]⟩

theorem words_of_words (words : Words) : (ofWords words).words = words := by
  apply Vector.ext
  intro index inside
  by_cases subkey : index < 18
  · rw [words_subkey _ index subkey]
    exact Vector.getElem_ofFn subkey
  · obtain ⟨behind, rfl⟩ : ∃ behind, index = 18 + behind := ⟨index - 18, by omega⟩
    rw [words_box _ behind (by omega)]
    exact Vector.getElem_ofFn (by omega)

end CipherState

section Runs

variable {feed : Nat → Block → Block} {words : Words}

theorem Run.follows_chain {states : Nat → CipherState} {blocks : Nat → Block}
    (run : Run feed words states blocks) (count : Nat) (bounded : count ≤ 521) :
    (states count).words = (chain feed words count bounded).words ∧
      blocks count = (chain feed words count bounded).block := by
  induction count with
  | zero => exact ⟨run.first_state, run.first_block⟩
  | succ count ih =>
      obtain ⟨state, block⟩ := ih (by omega)
      have next : blocks (count + 1) = (chain feed words (count + 1) bounded).block := by
        rw [run.encrypted count bounded, encrypt_is_textbook, state, block]
        rfl
      refine ⟨?_, next⟩
      rw [run.stored count bounded, state, next]
      rfl

/-- The stage after any number of steps. Behind the last step it may be anything. -/
def stageAt (feed : Nat → Block → Block) (words : Words) (count : Nat) : Stage :=
  if bounded : count ≤ 521 then chain feed words count bounded else ⟨words, ⟨0, 0⟩⟩

theorem stage_at_of_le (count : Nat) (bounded : count ≤ 521) :
    stageAt feed words count = chain feed words count bounded :=
  dif_pos bounded

theorem chain_runs (feed : Nat → Block → Block) (words : Words) :
    Run feed words (fun count => .ofWords (stageAt feed words count).words)
      (fun count => (stageAt feed words count).block) := by
  constructor
  · rw [CipherState.words_of_words, stage_at_of_le 0 (by decide)]
    rfl
  · rw [stage_at_of_le 0 (by decide)]
    rfl
  · intro pair bounded
    rw [encrypt_is_textbook, CipherState.words_of_words, stage_at_of_le (pair + 1) bounded,
      stage_at_of_le pair (by omega)]
    rfl
  · intro pair bounded
    rw [CipherState.words_of_words, CipherState.words_of_words, stage_at_of_le (pair + 1) bounded,
      stage_at_of_le pair (by omega)]
    rfl

theorem expands_of_chain {final : CipherState}
    (words_eq : final.words = (chain feed words 521 (Nat.le_refl _)).words) :
    Expands feed words final := by
  refine ⟨⟨_, _, chain_runs feed words⟩, ?_, ?_⟩
  · intro states blocks run
    apply CipherState.words_injective
    rw [(run.follows_chain 521 (Nat.le_refl _)).1, words_eq]
  · intro states blocks run count bounded index inside
    simp only [(run.follows_chain count bounded).1, words_eq]
    exact chain_word feed words count bounded index inside

end Runs

theorem expand_key_with_zero_salt (state : CipherState) (key : List UInt8) :
    state.expandKeyWithSalt key ⟨Vector.replicate 16 0⟩ = state.expandKey key := rfl

/-- A salted expansion is one run of 521 encryptions over the 1042 words, subkeys first,
from the words with the key combined and from a running block of zeros, which takes up
the next eight bytes of the repeated salt before each encryption. Without a salt nothing
is taken up, which is what sixteen zero bytes come to. -/
theorem expansions_are_runs (state : CipherState) (key : List UInt8) (salt : Salt) :
    Expands (saltFeed salt.bytes.toList) (addKey state.words key)
        (state.expandKeyWithSalt key salt) ∧
      Expands (fun _ block => block) (addKey state.words key) (state.expandKey key) ∧
      state.expandKey key = state.expandKeyWithSalt key ⟨Vector.replicate 16 0⟩ := by
  refine ⟨?_, ?_, ?_⟩
  · exact expands_of_chain (words_expand_key_with_salt state key salt)
  · exact expands_of_chain (words_expand_key state key)
  · exact (expand_key_with_zero_salt state key).symm

end Bcrypt.Blowfish
