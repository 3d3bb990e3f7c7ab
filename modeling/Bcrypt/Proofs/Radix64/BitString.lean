import Bcrypt.Proofs.Radix64.Refusal
import Mathlib.Data.List.Basic
import Mathlib.Data.List.GetD

/-!
# Radix-64 as one string of bits

Bytes laid end to end are one string of bits, the most significant bit of each byte
first. Writing cuts this string into groups of six bits, whatever the length of the
sequence, and looks each group up in the alphabet; zero bits fill up the last group.
Reading lays the values of the symbols end to end and cuts their string into groups of
eight.
-/

set_option autoImplicit false

namespace Bcrypt.Radix64

/-- The lowest bits of a number, the most significant of them first. -/
def bitsOf : (size : Nat) → (number : Nat) → List Bool
  | 0, _ => []
  | size + 1, number => number.testBit size :: bitsOf size number

def bitString (size : Nat) (numbers : List Nat) : List Bool := numbers.flatMap (bitsOf size)

/-- The number that the bits from a place on write. Behind its end a string goes on with zeros. -/
def window (bits : List Bool) (start : Nat) : (width : Nat) → Nat
  | 0 => 0
  | width + 1 => 2 * window bits start width + (bits.getD (start + width) false).toNat

@[simp] theorem bits_of_length (size number : Nat) : (bitsOf size number).length = size := by
  induction size with
  | zero => rfl
  | succ size ih => rw [bitsOf, List.length_cons, ih]

theorem bits_of_sum (high low number : Nat) :
    bitsOf (high + low) number = bitsOf high (number / 2 ^ low) ++ bitsOf low number := by
  induction high with
  | zero => rw [Nat.zero_add, bitsOf, List.nil_append]
  | succ high ih =>
      rw [Nat.add_right_comm, bitsOf, bitsOf, ih, Nat.testBit_div_two_pow, List.cons_append]

theorem bits_of_mod (size number : Nat) : bitsOf size (number % 2 ^ size) = bitsOf size number := by
  have low (count : Nat) (inside : count ≤ size) :
      bitsOf count (number % 2 ^ size) = bitsOf count number := by
    induction count with
    | zero => rfl
    | succ count ih =>
        have bounded : count < size := inside
        rw [bitsOf, bitsOf, ih (Nat.le_of_lt inside), Nat.testBit_mod_two_pow,
          decide_eq_true bounded, Bool.true_and]
  exact low size (Nat.le_refl size)

theorem bits_of_join (high low front : Nat) {back : Nat} (bounded : back < 2 ^ low) :
    bitsOf (high + low) (front % 2 ^ high * 2 ^ low + back) =
      bitsOf high front ++ bitsOf low back := by
  have upper : (front % 2 ^ high * 2 ^ low + back) / 2 ^ low = front % 2 ^ high := by
    rw [Nat.mul_comm, Nat.mul_add_div (Nat.two_pow_pos low), Nat.div_eq_of_lt bounded, Nat.add_zero]
  have lower : (front % 2 ^ high * 2 ^ low + back) % 2 ^ low = back := by
    rw [Nat.mul_comm, Nat.mul_add_mod, Nat.mod_eq_of_lt bounded]
  rw [bits_of_sum, upper, bits_of_mod, ← bits_of_mod low, lower]

theorem bit_string_length (size : Nat) (numbers : List Nat) :
    (bitString size numbers).length = size * numbers.length := by
  induction numbers with
  | nil => rfl
  | cons number numbers ih =>
      rw [bitString, List.flatMap_cons, List.length_append, bits_of_length, ← bitString, ih,
        List.length_cons, Nat.mul_succ, Nat.add_comm]

theorem window_lt (bits : List Bool) (start width : Nat) : window bits start width < 2 ^ width := by
  induction width with
  | zero => exact Nat.one_pos
  | succ width ih =>
      have bit := Bool.toNat_lt (bits.getD (start + width) false)
      rw [window, Nat.pow_succ]
      omega

theorem window_congr {bits other : List Bool} {start otherStart : Nat} (width : Nat)
    (same : ∀ place < width,
      bits.getD (start + place) false = other.getD (otherStart + place) false) :
    window bits start width = window other otherStart width := by
  induction width with
  | zero => rfl
  | succ width ih =>
      have before := ih fun place inside => same place (Nat.lt_succ_of_lt inside)
      rw [window, window, before, same width (Nat.lt_succ_self width)]

theorem window_front {front : List Bool} {start width : Nat} (inside : start + width ≤ front.length)
    (back : List Bool) : window (front ++ back) start width = window front start width := by
  apply window_congr
  intro place bounded
  exact List.getD_append _ _ _ _ (by omega)

theorem window_back (front back : List Bool) (start width : Nat) :
    window (front ++ back) (front.length + start) width = window back start width := by
  apply window_congr
  intro place bounded
  rw [List.getD_append_right _ _ _ _ (by omega), Nat.add_assoc, Nat.add_sub_cancel_left]

theorem window_padded (bits : List Bool) (count start width : Nat) :
    window (bits ++ List.replicate count false) start width = window bits start width := by
  apply window_congr
  intro place _
  by_cases inside : start + place < bits.length
  · exact List.getD_append _ _ _ _ inside
  · have behind : bits.length ≤ start + place := Nat.not_lt.mp inside
    rw [List.getD_append_right _ _ _ _ behind, List.getD_eq_default bits _ behind]
    by_cases written : start + place - bits.length < count
    · rw [List.getD_replicate _ written]
    · exact List.getD_eq_default _ _ (by rw [List.length_replicate]; omega)

theorem bit_of_number {size place : Nat} (inside : place < size) (number : Nat) :
    (bitsOf size number).getD place false = number.testBit (size - 1 - place) := by
  induction size generalizing place with
  | zero => contradiction
  | succ size ih =>
      cases place with
      | zero => rfl
      | succ place =>
          rw [bitsOf, List.getD_cons_succ, ih (Nat.lt_of_succ_lt_succ inside)]
          congr 1
          omega

theorem window_of_bits (size number width : Nat) (inside : width ≤ size) :
    window (bitsOf size number) 0 width = number / 2 ^ (size - width) % 2 ^ width := by
  induction width with
  | zero => rw [window, Nat.pow_zero, Nat.mod_one]
  | succ width ih =>
      have last : size - 1 - width = size - (width + 1) := by omega
      have shorter : size - width = size - (width + 1) + 1 := by omega
      rw [window, Nat.zero_add, bit_of_number inside, Nat.toNat_testBit,
        ih (Nat.le_of_succ_le inside), last, shorter, Nat.pow_succ, ← Nat.div_div_eq_div_mul,
        Nat.pow_succ', Nat.mod_mul, Nat.add_comm]

theorem window_of_number (size : Nat) {numbers : List Nat} {index number : Nat}
    (found : numbers[index]? = some number) (bounded : number < 2 ^ size) :
    window (bitString size numbers) (size * index) size = number := by
  induction numbers generalizing index with
  | nil => contradiction
  | cons first rest ih =>
      rw [bitString, List.flatMap_cons]
      cases index with
      | zero =>
          obtain rfl := Option.some.inj found
          have inside : 0 + size ≤ (bitsOf size first).length :=
            Nat.le_of_eq (by rw [Nat.zero_add, bits_of_length])
          rw [Nat.mul_zero, window_front inside, window_of_bits _ _ _ (Nat.le_refl size),
            Nat.sub_self, Nat.pow_zero, Nat.div_one, Nat.mod_eq_of_lt bounded]
      | succ index =>
          have start : size * (index + 1) = (bitsOf size first).length + size * index := by
            rw [bits_of_length, Nat.mul_succ, Nat.add_comm]
          rw [start, window_back]
          exact ih found

def byteBits (bytes : List UInt8) : List Bool := bitString 8 (bytes.map UInt8.toNat)

def valueBits (values : List Sextet) : List Bool := bitString 6 (values.map Fin.val)

theorem byte_bits_cons (byte : UInt8) (bytes : List UInt8) :
    byteBits (byte :: bytes) = bitsOf 8 byte.toNat ++ byteBits bytes := rfl

theorem value_bits_cons (value : Sextet) (values : List Sextet) :
    valueBits (value :: values) = bitsOf 6 value.val ++ valueBits values := rfl

section

variable (first second third : UInt8)

theorem first_byte_parts :
    bitsOf 8 first.toNat = bitsOf 6 (firstSextet first).val ++ bitsOf 2 first.toNat :=
  bits_of_sum 6 2 first.toNat

theorem second_byte_parts :
    bitsOf 8 second.toNat = bitsOf 4 (second.toNat / 16) ++ bitsOf 4 second.toNat :=
  bits_of_sum 4 4 second.toNat

theorem third_byte_parts :
    bitsOf 8 third.toNat = bitsOf 2 (third.toNat / 64) ++ bitsOf 6 third.toNat :=
  bits_of_sum 2 6 third.toNat

theorem bits_of_second_sextet :
    bitsOf 6 (secondSextet first second).val =
      bitsOf 2 first.toNat ++ bitsOf 4 (second.toNat / 16) := by
  have bound := second.toNat_lt
  exact bits_of_join 2 4 first.toNat (by omega)

theorem bits_of_third_sextet :
    bitsOf 6 (thirdSextet second third).val =
      bitsOf 4 second.toNat ++ bitsOf 2 (third.toNat / 64) := by
  have bound := third.toNat_lt
  exact bits_of_join 4 2 second.toNat (by omega)

theorem bits_of_fourth_sextet : bitsOf 6 (fourthSextet third).val = bitsOf 6 third.toNat :=
  bits_of_mod 6 third.toNat

end

/-- The values written for bytes have the bits of the bytes, and behind them at most some zeros. -/
theorem bits_of_sextets (bytes : List UInt8) :
    ∃ spare, valueBits (sextets bytes) = byteBits bytes ++ List.replicate spare false := by
  fun_induction sextets bytes with
  | case1 => exact ⟨0, rfl⟩
  | case2 first =>
      refine ⟨4, ?_⟩
      simp only [value_bits_cons, byte_bits_cons, bits_of_second_sextet, first_byte_parts first,
        List.append_assoc]
      rfl
  | case3 first second =>
      refine ⟨2, ?_⟩
      simp only [value_bits_cons, byte_bits_cons, bits_of_second_sextet, bits_of_third_sextet,
        first_byte_parts first, second_byte_parts second, List.append_assoc]
      rfl
  | case4 first second third rest ih =>
      rcases ih with ⟨spare, same⟩
      refine ⟨spare, ?_⟩
      simp only [value_bits_cons, byte_bits_cons, bits_of_second_sextet, bits_of_third_sextet,
        bits_of_fourth_sextet, first_byte_parts first, second_byte_parts second,
        third_byte_parts third, same, List.append_assoc]

def sextetAt (bits : List Bool) (index : Nat) : Sextet :=
  ⟨window bits (6 * index) 6, window_lt bits (6 * index) 6⟩

theorem sextet_is_window {bytes : List UInt8} {index : Nat} {value : Sextet}
    (found : (sextets bytes)[index]? = some value) : value = sextetAt (byteBits bytes) index := by
  rcases bits_of_sextets bytes with ⟨spare, same⟩
  have number : ((sextets bytes).map Fin.val)[index]? = some value.val := by
    rw [List.getElem?_map, found, Option.map_some]
  have read := window_of_number 6 number value.isLt
  rw [← valueBits, same, window_padded] at read
  exact Fin.ext read.symm

section

variable (first second third fourth : Sextet)

theorem second_sextet_parts :
    bitsOf 6 second.val = bitsOf 2 (second.val / 16) ++ bitsOf 4 second.val :=
  bits_of_sum 2 4 second.val

theorem third_sextet_parts : bitsOf 6 third.val = bitsOf 4 (third.val / 4) ++ bitsOf 2 third.val :=
  bits_of_sum 4 2 third.val

theorem bits_of_first_byte :
    bitsOf 8 (firstByte first second).toNat = bitsOf 6 first.val ++ bitsOf 2 (second.val / 16) := by
  have value : (firstByte first second).toNat = first.val % 64 * 4 + second.val / 16 := by
    simp [firstByte]
    omega
  rw [value]
  exact bits_of_join 6 2 first.val (by omega)

theorem bits_of_second_byte :
    bitsOf 8 (secondByte second third).toNat = bitsOf 4 second.val ++ bitsOf 4 (third.val / 4) := by
  have value : (secondByte second third).toNat = second.val % 16 * 16 + third.val / 4 := by
    simp [secondByte]
    omega
  rw [value]
  exact bits_of_join 4 4 second.val (by omega)

theorem bits_of_third_byte :
    bitsOf 8 (thirdByte third fourth).toNat = bitsOf 2 third.val ++ bitsOf 6 fourth.val := by
  have value : (thirdByte third fourth).toNat = third.val % 4 * 64 + fourth.val := by
    simp [thirdByte]
    omega
  rw [value]
  exact bits_of_join 2 6 third.val fourth.isLt

end

/-- The bytes read from values have the bits of the values, as far as they fill whole bytes. -/
theorem bits_of_bytes (values : List Sextet) :
    ∃ spare, valueBits values = byteBits (bytesOf values) ++ spare := by
  fun_induction bytesOf values with
  | case1 => exact ⟨[], rfl⟩
  | case2 value => exact ⟨valueBits [value], rfl⟩
  | case3 first second =>
      refine ⟨bitsOf 4 second.val, ?_⟩
      simp only [value_bits_cons, byte_bits_cons, second_sextet_parts second, bits_of_first_byte,
        List.append_assoc]
      rfl
  | case4 first second third =>
      refine ⟨bitsOf 2 third.val, ?_⟩
      simp only [value_bits_cons, byte_bits_cons, second_sextet_parts second,
        third_sextet_parts third, bits_of_first_byte, bits_of_second_byte, List.append_assoc]
      rfl
  | case5 first second third fourth rest ih =>
      rcases ih with ⟨spare, same⟩
      refine ⟨spare, ?_⟩
      simp only [value_bits_cons, byte_bits_cons, second_sextet_parts second,
        third_sextet_parts third, bits_of_first_byte, bits_of_second_byte, bits_of_third_byte, same,
        List.append_assoc]

def byteAt (bits : List Bool) (index : Nat) : UInt8 :=
  UInt8.ofNatLT (window bits (8 * index) 8) (window_lt bits (8 * index) 8)

theorem byte_is_window {values : List Sextet} {index : Nat} {byte : UInt8}
    (found : (bytesOf values)[index]? = some byte) : byte = byteAt (valueBits values) index := by
  rcases bits_of_bytes values with ⟨spare, same⟩
  have number : ((bytesOf values).map UInt8.toNat)[index]? = some byte.toNat := by
    rw [List.getElem?_map, found, Option.map_some]
  have inside : 8 * index + 8 ≤ (byteBits (bytesOf values)).length := by
    have bounded := (List.getElem?_eq_some_iff.mp found).1
    rw [byteBits, bit_string_length, List.length_map]
    omega
  have read := window_of_number 8 number byte.toNat_lt
  rw [← byteBits, ← window_front inside spare, ← same] at read
  apply UInt8.toNat_inj.mp
  rw [byteAt, UInt8.toNat_ofNatLT, read]

def alphabetPlace (byte : UInt8) : Nat := (alphabet.toList.map Char.toUInt8).idxOf byte

theorem alphabet_place_symbol (value : Sextet) : alphabetPlace (symbolByte value) = value.val := by
  revert value
  decide

def textBits (text : List UInt8) : List Bool := bitString 6 (text.map alphabetPlace)

theorem text_bits_symbols (values : List Sextet) :
    textBits (values.map symbolByte) = valueBits values := by
  rw [textBits, valueBits, List.map_map]
  congr 2
  funext value
  exact alphabet_place_symbol value

/-- Every character written is the one at the place in the alphabet that six bits of the
bytes tell, counted on from the character's own index. Every byte read is eight bits of
the values of the text, in the same way. -/
theorem codec_regroups_bits :
    (∀ bytes : List UInt8, (encode bytes).length = encodedLength bytes.length ∧
      ∀ index < encodedLength bytes.length,
        (encode bytes).toList[index]? = some alphabet[sextetAt (byteBits bytes) index]) ∧
    ∀ text bytes, decode text = .ok bytes → decodedLength? text.length = some bytes.length ∧
      ∀ index < bytes.length, bytes[index]? = some (byteAt (textBits text) index) := by
  constructor
  · intro bytes
    refine ⟨encode_character_count bytes, ?_⟩
    intro index inside
    rw [← sextets_length] at inside
    have found := List.getElem?_eq_getElem inside
    rw [encode_to_list, List.getElem?_map, found, Option.map_some, sextet_is_window found]
    rfl
  · intro text bytes read
    refine ⟨decoded_length_of_decode read, ?_⟩
    intro index inside
    rcases (decode_eq_ok_iff text bytes).mp read with ⟨values, ⟨_, rfl⟩, rfl⟩
    have found := List.getElem?_eq_getElem inside
    rw [text_bits_symbols, ← byte_is_window found]
    exact found

/-- Two bytes, whose last character takes two bits from behind them, and six symbols, of
which the last has four bits that no byte takes. -/
theorem codec_regroups_bits_at_ends :
    let bytes : List UInt8 := [0xd7, 0x9f]
    let text := Text.bytes "abcdXT"
    (2 < encodedLength bytes.length ∧
      (encode bytes).toList[2]? = some alphabet[sextetAt (byteBits bytes) 2] ∧
      sextetAt (byteBits bytes) 2 = 60) ∧
    decode text = .ok [113, 215, 159, 101] ∧ decodedLength? text.length = some 4 ∧
      byteAt (textBits text) 3 = 101 := by
  intro bytes text
  have read : decode text = .ok [113, 215, 159, 101] := by decide +kernel
  rcases codec_regroups_bits with ⟨written, taken⟩
  have character := (written bytes).2 2 (by decide)
  rcases taken text _ read with ⟨length, byte⟩
  have last := byte 3 (by decide)
  exact ⟨⟨by decide, character, by decide⟩, read, length, (Option.some.inj last).symm⟩

end Bcrypt.Radix64
