import Bcrypt.Word

/-!
# A key read round and round

The key schedule needs more key material than a key holds. It reads the key as an
endless repetition, a word at a time; words may straddle the end of the key.
-/

set_option autoImplicit false

namespace Bcrypt.Blowfish

/-- A place in a key. It may be just past the last byte: the reading goes back to the
first byte only when another one is asked for. -/
structure KeyCycle where
  key : List UInt8
  nonempty : key ≠ []
  index : Nat
  index_le : index ≤ key.length

namespace KeyCycle

def start (key : List UInt8) (nonempty : key ≠ []) : KeyCycle :=
  ⟨key, nonempty, 0, Nat.zero_le _⟩

def nextByte (cycle : KeyCycle) : UInt8 × KeyCycle :=
  if inside : cycle.index < cycle.key.length then
    (cycle.key[cycle.index], { cycle with index := cycle.index + 1, index_le := inside })
  else
    (cycle.key.head cycle.nonempty,
      { cycle with index := 1, index_le := List.length_pos_iff.mpr cycle.nonempty })

def nextWord (cycle : KeyCycle) : UInt32 × KeyCycle :=
  let (first, cycle) := cycle.nextByte
  let (second, cycle) := cycle.nextByte
  let (third, cycle) := cycle.nextByte
  let (fourth, cycle) := cycle.nextByte
  (Word.ofBytes first second third fourth, cycle)

def combine (cycle : KeyCycle) (subkeys : Vector UInt32 18) :
    (count : Nat) → count ≤ 18 → Vector UInt32 18
  | 0, _ => subkeys
  | count + 1, bounded =>
      let (word, cycle) := cycle.nextWord
      combine cycle (subkeys.set (17 - count) (subkeys[17 - count] ^^^ word)) count (by omega)

end KeyCycle

end Bcrypt.Blowfish
