import Bcrypt.Word
import Mathlib.Algebra.Group.Nat.Defs
import Mathlib.Data.List.GetD

/-!
# Words read off an endless stream of bytes

A finite sequence of bytes is repeated for ever and read four bytes at a time, most
significant byte first. The value of a word is plain arithmetic on its bytes, so that
nothing here depends on how a word is put together with shifts.
-/

set_option autoImplicit false

namespace Bcrypt.ByteStream

/-- The bytes of a sequence, repeated for ever. The empty sequence gives zero bytes. -/
def endless (bytes : List UInt8) (position : Nat) : UInt8 :=
  bytes.getD (position % bytes.length) 0

def wordAt (stream : Nat → UInt8) (index : Nat) : UInt32 :=
  UInt32.ofNat (256 ^ 3 * (stream (4 * index)).toNat + 256 ^ 2 * (stream (4 * index + 1)).toNat +
    256 * (stream (4 * index + 2)).toNat + (stream (4 * index + 3)).toNat)

/-- The byte of a word at a place, counted from the least significant one. -/
def byteOf (word : UInt32) (place : Nat) : Fin 256 :=
  ⟨word.toNat / 256 ^ place % 256, Nat.mod_lt _ (by decide)⟩

theorem endless_of_lt (bytes : List UInt8) (position : Nat) (inside : position < bytes.length) :
    endless bytes position = bytes[position] := by
  rw [endless, Nat.mod_eq_of_lt inside, List.getD_eq_getElem _ _ inside]

theorem endless_congr (bytes : List UInt8) {position other : Nat}
    (same : position % bytes.length = other % bytes.length) :
    endless bytes position = endless bytes other := by
  rw [endless, endless, same]

@[simp] theorem endless_empty (position : Nat) : endless [] position = 0 := rfl

theorem endless_append_of_lt (bytes suffix : List UInt8) (position : Nat)
    (inside : position < bytes.length) :
    endless (bytes ++ suffix) position = bytes[position] := by
  have longer : position < (bytes ++ suffix).length := by
    rw [List.length_append]
    omega
  rw [endless_of_lt _ position longer, List.getElem_append_left inside]

theorem copies_byte (bytes : List UInt8) (count position : Nat)
    (inside : position < count * bytes.length) :
    (List.replicate count bytes).flatten.getD position 0 = endless bytes position := by
  induction count generalizing position with
  | zero => omega
  | succ count ih =>
      rw [List.replicate_succ, List.flatten_cons]
      by_cases first : position < bytes.length
      · rw [List.getD_append _ _ _ _ first, endless, Nat.mod_eq_of_lt first]
      · have beyond : bytes.length ≤ position := Nat.not_lt.mp first
        rw [Nat.succ_mul] at inside
        rw [List.getD_append_right _ _ _ _ beyond, ih _ (by omega)]
        exact endless_congr bytes (Nat.mod_eq_sub_mod beyond).symm

theorem endless_copies (bytes : List UInt8) (count position : Nat) :
    endless (List.replicate (count + 1) bytes).flatten position = endless bytes position := by
  have length : (List.replicate (count + 1) bytes).flatten.length = (count + 1) * bytes.length := by
    simp
  by_cases empty : bytes.length = 0
  · obtain rfl := List.length_eq_zero_iff.mp empty
    simp
  · have inside : position % ((count + 1) * bytes.length) < (count + 1) * bytes.length :=
      Nat.mod_lt _ (Nat.mul_pos (Nat.succ_pos count) (Nat.pos_of_ne_zero empty))
    rw [endless, length, copies_byte bytes (count + 1) _ inside]
    exact endless_congr bytes (Nat.mod_mul_left_mod _ _ _)

/-- The value of a word is made of its bytes, whatever operations put it together. -/
theorem of_bytes_value (first second third fourth : UInt8) :
    (Word.ofBytes first second third fourth).toNat =
      256 ^ 3 * first.toNat + 256 ^ 2 * second.toNat + 256 * third.toNat + fourth.toNat := by
  have bytes := Word.to_bytes_of_bytes first second third fourth
  have bounded := (Word.ofBytes first second third fourth).toNat_lt
  simp only [Word.toBytes, List.cons.injEq, and_true] at bytes
  obtain ⟨high, upper, lower, low⟩ := bytes
  replace high := congrArg UInt8.toNat high
  replace upper := congrArg UInt8.toNat upper
  replace lower := congrArg UInt8.toNat lower
  replace low := congrArg UInt8.toNat low
  simp [Nat.shiftRight_eq_div_pow] at high upper lower low
  omega

theorem word_at_eq_of_bytes (stream : Nat → UInt8) (index : Nat) :
    wordAt stream index =
      Word.ofBytes (stream (4 * index)) (stream (4 * index + 1)) (stream (4 * index + 2))
        (stream (4 * index + 3)) := by
  rw [wordAt, ← of_bytes_value, UInt32.ofNat_toNat]

theorem of_bytes_injective {first second third fourth first' second' third' fourth' : UInt8}
    (same : Word.ofBytes first second third fourth = Word.ofBytes first' second' third' fourth') :
    first = first' ∧ second = second' ∧ third = third' ∧ fourth = fourth' := by
  have bytes := congrArg Word.toBytes same
  simpa only [Word.to_bytes_of_bytes, List.cons.injEq, and_true] using bytes

/-- Equal words have equal bytes, so the words of a stream tell all that it holds. -/
theorem streams_agree_of_words_agree {stream other : Nat → UInt8} {count : Nat}
    (same : ∀ index < count, wordAt stream index = wordAt other index) :
    ∀ position < 4 * count, stream position = other position := by
  intro position bounded
  have words := same (position / 4) (by omega)
  rw [word_at_eq_of_bytes, word_at_eq_of_bytes] at words
  obtain ⟨first, second, third, fourth⟩ := of_bytes_injective words
  have places : position = 4 * (position / 4) ∨ position = 4 * (position / 4) + 1 ∨
      position = 4 * (position / 4) + 2 ∨ position = 4 * (position / 4) + 3 := by omega
  rcases places with place | place | place | place <;> rw [place]
  · exact first
  · exact second
  · exact third
  · exact fourth

theorem words_agree_of_streams_agree {stream other : Nat → UInt8} {count : Nat}
    (same : ∀ position < 4 * count, stream position = other position) :
    ∀ index < count, wordAt stream index = wordAt other index := by
  intro index bounded
  rw [wordAt, wordAt, same (4 * index) (by omega), same (4 * index + 1) (by omega),
    same (4 * index + 2) (by omega), same (4 * index + 3) (by omega)]

theorem shifted_byte (word : UInt32) (place : Nat) (bounded : place < 4) :
    (word >>> UInt32.ofNat (8 * place)).toUInt8.toNat = (byteOf word place).val := by
  have power : 2 ^ (8 * place) = 256 ^ place := by rw [Nat.pow_mul]
  simp [byteOf, Nat.shiftRight_eq_div_pow, Nat.mod_eq_of_lt, power, show 8 * place < 32 by omega]

theorem to_bytes_places (word : UInt32) :
    Word.toBytes word = [3, 2, 1, 0].map fun place => UInt8.ofNat (byteOf word place) := by
  have bytes (place : Nat) (bounded : place < 4) :
      UInt8.ofNat (byteOf word place) = (word >>> UInt32.ofNat (8 * place)).toUInt8 := by
    rw [← shifted_byte word place bounded, UInt8.ofNat_toNat]
  simp only [List.map_cons, List.map_nil, bytes 3 (by decide), bytes 2 (by decide),
    bytes 1 (by decide), bytes 0 (by decide)]
  simp [Word.toBytes]

end Bcrypt.ByteStream
