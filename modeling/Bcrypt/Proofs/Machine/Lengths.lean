import Bcrypt.Proofs.Machine.Radix64
import Bcrypt.Proofs.Radix64.FixedSize

/-!
# Lengths there and back

In words of every width the count of symbols and the count of bytes undo each other.
Bytes can always be counted. Symbols can be counted as long as the bytes are fewer than
three quarters of the values of a word, up to the greatest word. No sequence in memory
is longer.
-/

set_option autoImplicit false

namespace Bcrypt

theorem Radix64.decoded_length_eq_none_iff (length : Nat) :
    decodedLength? length = none ↔ length % 4 = 1 := by
  by_cases incomplete : length % 4 = 1
  · rw [decodedLength?, incomplete]
    exact iff_of_true rfl rfl
  · rw [decoded_length_eq_some incomplete]
    exact iff_of_false (Option.some_ne_none _) incomplete

theorem Radix64.encoded_length_lt_iff (size groups : Nat) :
    encodedLength size < 4 * groups ↔ size < 3 * groups := by
  rw [encodedLength]
  split <;> omega

namespace Machine

section

variable {bits : Nat} (wide : 2 ≤ bits)

include wide

theorem word_in_quarters : 2 ^ bits = 4 * 2 ^ (bits - 2) := by
  rcases Nat.exists_eq_add_of_le wide with ⟨more, rfl⟩
  rw [Nat.add_sub_cancel_left, Nat.pow_add]

theorem symbol_count_in_bits (size : Nat) :
    symbolCount (2 ^ bits) size = bounded (2 ^ bits) (Radix64.encodedLength size) := by
  have quarter := Nat.two_pow_pos (bits - 2)
  have quarters := word_in_quarters wide
  exact symbol_count_eq (by omega) size

theorem symbol_count_overflow_iff (size : Nat) :
    symbolCount (2 ^ bits) size = .error .overflow ↔ 3 * 2 ^ (bits - 2) ≤ size := by
  rw [symbol_count_in_bits wide, bounded_eq_overflow_iff, word_in_quarters wide, ← Nat.not_lt,
    Radix64.encoded_length_lt_iff, Nat.not_lt]

theorem symbol_count_ok {size : Nat} (fits : size < 3 * 2 ^ (bits - 2)) :
    symbolCount (2 ^ bits) size = .ok (Radix64.encodedLength size) := by
  rw [← Radix64.encoded_length_lt_iff, ← word_in_quarters wide] at fits
  rw [symbol_count_in_bits wide, bounded_ok fits]

/-- A number of bytes whose symbols cannot be counted is not the count of any number of
symbols either. -/
theorem byte_count_eq_some_iff {length : Nat} (counted : length < 2 ^ bits) (size : Nat) :
    byteCount? (2 ^ bits) length = .ok (some size) ↔ symbolCount (2 ^ bits) size = .ok length := by
  rw [byte_count_eq counted, Except.ok.injEq, Radix64.decoded_length_eq_some_iff,
    symbol_count_in_bits wide, bounded_eq_ok_iff]
  constructor
  · rintro rfl
    exact ⟨counted, rfl⟩
  · exact And.right

end

theorem byte_count_eq_none_iff {values length : Nat} (counted : length < values) :
    byteCount? values length = .ok none ↔ length % 4 = 1 := by
  rw [byte_count_eq counted, Except.ok.injEq, Radix64.decoded_length_eq_none_iff]

theorem address_bits : ∃ bits, 2 ≤ bits ∧ USize.size = 2 ^ bits := by
  cases USize.size_eq with
  | inl narrow => exact ⟨32, by decide, narrow⟩
  | inr wide => exact ⟨64, by decide, wide⟩

/-- Every number of symbols that a word can hold is counted in bytes, or is the length
of no encoding, and this count is undone by that of the symbols. Symbols are counted up
to three quarters of the values of a word, which in words of 64 bits is more than the
bytes of any sequence in memory. -/
theorem lengths_undo_each_other :
    (∀ bits, 2 ≤ bits → ∀ length < 2 ^ bits,
      byteCount? (2 ^ bits) length = .ok (Radix64.decodedLength? length) ∧
      (byteCount? (2 ^ bits) length = .ok none ↔ length % 4 = 1) ∧
      ∀ size, byteCount? (2 ^ bits) length = .ok (some size) ↔
        symbolCount (2 ^ bits) size = .ok length) ∧
    (∀ bits, 2 ≤ bits → ∀ size,
      (symbolCount (2 ^ bits) size = .error .overflow ↔ 3 * 2 ^ (bits - 2) ≤ size) ∧
      (size < 3 * 2 ^ (bits - 2) →
        symbolCount (2 ^ bits) size = .ok (Radix64.encodedLength size))) ∧
    (∀ size, symbolCount (2 ^ 64) size = .error .overflow ↔ 3 * 2 ^ 62 ≤ size) ∧
    (∀ bytes : List UInt8, bytes.length < 2 ^ 63 → bytes.length < 3 * 2 ^ 62 ∧
      symbolCount (2 ^ 64) bytes.length = .ok (Radix64.encodedLength bytes.length)) ∧
    ∃ bits, 2 ≤ bits ∧ USize.size = 2 ^ bits ∧
      (∀ size, encodedLength size = symbolCount (2 ^ bits) size) ∧
      ∀ length, decodedLength? length = byteCount? (2 ^ bits) length := by
  have wide : 2 ≤ 64 := by decide
  refine ⟨?_, ?_, ?_, ?_, ?_⟩
  · intro bits wide length counted
    exact ⟨byte_count_eq counted, byte_count_eq_none_iff counted,
      byte_count_eq_some_iff wide counted⟩
  · intro bits wide size
    exact ⟨symbol_count_overflow_iff wide size, symbol_count_ok wide⟩
  · intro size
    exact symbol_count_overflow_iff wide size
  · intro bytes stored
    have below : bytes.length < 3 * 2 ^ 62 := by omega
    exact ⟨below, symbol_count_ok wide below⟩
  · rcases address_bits with ⟨bits, wide, size⟩
    refine ⟨bits, wide, size, ?_⟩
    rw [← size]
    exact ⟨encoded_length_in_words, decoded_length_in_words⟩

/-- The greatest word of 64 bits is the count of symbols for the most bytes that have one. -/
theorem lengths_at_greatest_word :
    2 ≤ 64 ∧ 2 ^ 64 - 1 < 2 ^ 64 ∧ 3 * 2 ^ 62 - 1 < 3 * 2 ^ (64 - 2) ∧
      symbolCount (2 ^ 64) (3 * 2 ^ 62 - 1) = .ok (2 ^ 64 - 1) ∧
      byteCount? (2 ^ 64) (2 ^ 64 - 1) = .ok (some (3 * 2 ^ 62 - 1)) ∧
      symbolCount (2 ^ 64) (3 * 2 ^ 62) = .error .overflow ∧
      ([0x61] : List UInt8).length < 2 ^ 63 ∧ symbolCount (2 ^ 64) 1 = .ok 2 := by
  have wide : 2 ≤ 64 := by decide
  have counted : 2 ^ 64 - 1 < 2 ^ 64 := by decide
  have fits : 3 * 2 ^ 62 - 1 < 3 * 2 ^ (64 - 2) := by decide
  have stored : ([0x61] : List UInt8).length < 2 ^ 63 := by decide
  rcases lengths_undo_each_other with ⟨bytes, symbols, overflows, sequences, _⟩
  have greatest : symbolCount (2 ^ 64) (3 * 2 ^ 62 - 1) = .ok (2 ^ 64 - 1) :=
    (symbols 64 wide _).2 fits
  exact ⟨wide, counted, fits, greatest, ((bytes 64 wide _ counted).2.2 _).mpr greatest,
    (overflows _).mpr (Nat.le_refl _), stored, (sequences [0x61] stored).2⟩

end Machine

end Bcrypt
