/-!
# Big-endian words

A 32-bit word is written as four bytes, most significant first, and a block of the
cipher as two such words.
-/

set_option autoImplicit false

namespace Bcrypt

namespace Word

def ofBytes (first second third fourth : UInt8) : UInt32 :=
  first.toUInt32 <<< 24 ||| second.toUInt32 <<< 16 ||| third.toUInt32 <<< 8 ||| fourth.toUInt32

def toBytes (word : UInt32) : List UInt8 :=
  [(word >>> 24).toUInt8, (word >>> 16).toUInt8, (word >>> 8).toUInt8, word.toUInt8]

@[simp] theorem to_bytes_length (word : UInt32) : (toBytes word).length = 4 := rfl

@[simp] theorem to_bytes_of_bytes (first second third fourth : UInt8) :
    toBytes (ofBytes first second third fourth) = [first, second, third, fourth] := by
  simp only [toBytes, ofBytes, List.cons.injEq, and_true]
  refine ⟨?_, ?_, ?_, ?_⟩ <;>
    apply UInt8.eq_of_toBitVec_eq <;>
    apply BitVec.eq_of_getLsbD_eq <;>
    intro index bounded <;>
    simp [BitVec.getLsbD_shiftLeft, BitVec.getLsbD_setWidth] <;>
    grind

theorem of_bytes_to_bytes (word : UInt32) :
    ofBytes (word >>> 24).toUInt8 (word >>> 16).toUInt8 (word >>> 8).toUInt8 word.toUInt8 =
      word := by
  apply UInt32.eq_of_toBitVec_eq
  apply BitVec.eq_of_getLsbD_eq
  intro index bounded
  simp [ofBytes, -UInt32.toUInt32_toUInt8]
  grind

end Word

@[ext] structure Block where
  left : UInt32
  right : UInt32
  deriving DecidableEq

namespace Block

def size : Nat := 8

def zero : Block := ⟨0, 0⟩

def xor (block other : Block) : Block :=
  ⟨block.left ^^^ other.left, block.right ^^^ other.right⟩

def toBytes (block : Block) : List UInt8 :=
  Word.toBytes block.left ++ Word.toBytes block.right

@[simp] theorem to_bytes_length (block : Block) : block.toBytes.length = 8 := rfl

end Block

end Bcrypt
