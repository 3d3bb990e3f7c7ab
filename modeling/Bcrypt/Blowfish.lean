import Bcrypt.Blowfish.PiDigits
import Bcrypt.Error
import Bcrypt.Word

/-!
# Blowfish

Sixteen Feistel rounds over a block of two words. The key is the state itself: eighteen
subkeys and four boxes of 256 words. Only encryption is needed here.
-/

set_option autoImplicit false

namespace Bcrypt.Blowfish

/-- A keyed cipher. The four boxes are laid end to end. -/
@[ext] structure CipherState where
  subkeys : Vector UInt32 18
  boxes : Vector UInt32 1024
  deriving DecidableEq

namespace CipherState

def initial : CipherState := ⟨PiDigits.subkeys, PiDigits.boxes⟩

def reset (state : CipherState) : CipherState :=
  { state with subkeys := PiDigits.subkeys, boxes := PiDigits.boxes }

@[inline] def box (state : CipherState) (number : Fin 4) (byte : UInt8) : UInt32 :=
  have bounded : 256 * number.val + byte.toNat < 1024 := by
    have byteBound := byte.toNat_lt
    have numberBound := number.isLt
    omega
  state.boxes[256 * number.val + byte.toNat]

@[inline] def substitute (state : CipherState) (word : UInt32) : UInt32 :=
  ((state.box 0 (word >>> 24).toUInt8 + state.box 1 (word >>> 16).toUInt8) ^^^
    state.box 2 (word >>> 8).toUInt8) + state.box 3 word.toUInt8

/-- The last `2 * pairs` rounds, then whitening. Two rounds are taken together, so that
the halves change roles without changing places; they trade places once, at the end. -/
def lastRounds (state : CipherState) (left right : UInt32) :
    (pairs : Nat) → pairs ≤ 8 → Block
  | 0, _ => ⟨right ^^^ state.subkeys[17], left ^^^ state.subkeys[16]⟩
  | pairs + 1, bounded =>
      let left := left ^^^ state.subkeys[14 - 2 * pairs]
      let right := right ^^^ state.substitute left ^^^ state.subkeys[15 - 2 * pairs]
      let left := left ^^^ state.substitute right
      state.lastRounds left right pairs (by omega)

def encrypt (state : CipherState) (block : Block) : Block :=
  state.lastRounds block.left block.right 8 (by omega)

/-- Encrypts a sequence of bytes block by block. Bytes that do not fill a last block are
kept as they are. -/
def encryptBlocks (state : CipherState) : List UInt8 → List UInt8
  | b0 :: b1 :: b2 :: b3 :: b4 :: b5 :: b6 :: b7 :: rest =>
      (state.encrypt ⟨Word.ofBytes b0 b1 b2 b3, Word.ofBytes b4 b5 b6 b7⟩).toBytes ++
        state.encryptBlocks rest
  | rest => rest

@[simp] theorem encrypt_blocks_length (state : CipherState) (bytes : List UInt8) :
    (state.encryptBlocks bytes).length = bytes.length := by
  fun_induction encryptBlocks state bytes with
  | case1 b0 b1 b2 b3 b4 b5 b6 b7 rest ih =>
      simp [ih]
      omega
  | case2 => rfl

def encryptStream {size : Nat} (state : CipherState) (buffer : Vector UInt8 size) :
    Except Error (Vector UInt8 size) :=
  if size % Block.size = 0 then
    .ok ⟨(state.encryptBlocks buffer.toList).toArray, by simp⟩
  else
    .error (.internal ("stream of " ++ toString size ++ " bytes is not a whole number of blocks"))

end CipherState

end Bcrypt.Blowfish
