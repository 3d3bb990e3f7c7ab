import Bcrypt.Proofs.Radix64.Reading
import Mathlib.Data.List.Basic

/-!
# Writing and reading in turn

Bytes that are written in radix-64 read back as they were. A text that is read and
written again keeps its length and all symbols but the last, and of the last symbol of a
partial group it loses the low bits, which belong to no byte. Two texts therefore stand
for the same bytes exactly if they differ in these bits alone.
-/

set_option autoImplicit false

namespace Bcrypt.Radix64

/-- Every sequence of bytes can be read back from its text, which is of the foreseen
length and made of symbols alone, one byte for each character. -/
theorem written_reads_back (bytes : List UInt8) :
    decode (Text.bytes (encode bytes)) = .ok bytes ∧
      (encode bytes).length = encodedLength bytes.length ∧
      (Text.bytes (encode bytes)).length = (encode bytes).length ∧
      ∀ byte ∈ Text.bytes (encode bytes), IsSymbol byte := by
  refine ⟨decode_encoded bytes, encode_character_count bytes, ?_, encode_symbols bytes⟩
  rw [encode_bytes_length, encode_character_count]

/-- The text of one byte has a partial group, and its last symbol is one. -/
theorem written_reads_back_partial_group :
    decode (Text.bytes (encode [0xff])) = .ok [0xff] ∧ (encode [0xff]).length = 2 ∧
      'u'.toUInt8 ∈ Text.bytes (encode [0xff]) ∧ IsSymbol 'u'.toUInt8 := by
  have member : 'u'.toUInt8 ∈ Text.bytes (encode [0xff]) := by decide
  have written := written_reads_back [0xff]
  exact ⟨written.1, written.2.1, member, written.2.2.2 _ member⟩

theorem clear_spare_concat (front : List Sextet) (last : Sextet) :
    clearSpare (front ++ [last]) = front ++ [clearLow (spareBits (front.length + 1)) last] := by
  have length : (front ++ [last]).length = front.length + 1 := List.length_append
  rw [clearSpare, length, Nat.add_sub_cancel, List.modify_eq_set, List.getElem?_concat_length,
    Option.getD_some, List.set_append_right _ _ (Nat.le_refl _), Nat.sub_self]
  rfl

theorem Spells.written {values : List Sextet} {bytes : List UInt8} (spells : Spells values bytes) :
    Text.bytes (encode bytes) = (clearSpare values).map symbolByte := by
  rw [encode_bytes, spells.sextets_eq]
  rfl

/-- A text is empty or ends in a symbol, and only the spare bits of that symbol are not
written again. -/
inductive WrittenAgain : List UInt8 → List UInt8 → Prop where
  | empty : WrittenAgain [] []
  | ending (front : List UInt8) (last : Sextet) :
      WrittenAgain (front ++ [symbolByte last])
        (front ++ [symbolByte (clearLow (spareBits (front.length + 1)) last)])

theorem written_again {text bytes : List UInt8} (read : decode text = .ok bytes) :
    WrittenAgain text (Text.bytes (encode bytes)) := by
  rcases (decode_eq_ok_iff text bytes).mp read with ⟨values, spells, rfl⟩
  rw [spells.written]
  rcases List.eq_nil_or_concat values with rfl | ⟨front, last, rfl⟩
  · exact .empty
  · have ending := WrittenAgain.ending (front.map symbolByte) last
    rw [List.concat_eq_append, clear_spare_concat, List.map_append, List.map_append]
    rwa [List.length_map] at ending

/-- The second text is the first without the spare bits of its last symbol: four bits if
the last group has two symbols, two bits if it has three. -/
structure LastCleared (text written : List UInt8) : Prop where
  length : written.length = text.length
  before_last : written.dropLast = text.dropLast
  whole : text.length % 4 = 0 → written.getLast? = text.getLast?
  two : text.length % 4 = 2 → ∃ value,
    text.getLast? = some (symbolByte value) ∧
      written.getLast? = some (symbolByte (clearLow 4 value))
  three : text.length % 4 = 3 → ∃ value,
    text.getLast? = some (symbolByte value) ∧
      written.getLast? = some (symbolByte (clearLow 2 value))

theorem spare_bits_of_whole {length : Nat} (whole : length % 4 = 0) : spareBits length = 0 := by
  rw [spareBits]
  omega

theorem spare_bits_of_two {length : Nat} (two : length % 4 = 2) : spareBits length = 4 := by
  rw [spareBits]
  omega

theorem spare_bits_of_three {length : Nat} (three : length % 4 = 3) : spareBits length = 2 := by
  rw [spareBits]
  omega

theorem WrittenAgain.last_cleared {text written : List UInt8} (again : WrittenAgain text written) :
    LastCleared text written := by
  cases again with
  | empty => constructor <;> simp
  | ending front last =>
      have length : (front ++ [symbolByte last]).length = front.length + 1 := List.length_append
      constructor
      · rw [length, List.length_append, List.length_singleton]
      · rw [List.dropLast_concat, List.dropLast_concat]
      · intro whole
        rw [length] at whole
        rw [spare_bits_of_whole whole, clear_low_zero]
      · intro two
        rw [length] at two
        rw [spare_bits_of_two two, List.getLast?_concat, List.getLast?_concat]
        exact ⟨last, rfl, rfl⟩
      · intro three
        rw [length] at three
        rw [spare_bits_of_three three, List.getLast?_concat, List.getLast?_concat]
        exact ⟨last, rfl, rfl⟩

def lastWithout (bits : Nat) (text : List UInt8) : Option Nat :=
  (text.getLast?.bind value?).map fun value => value.val / 2 ^ bits

structure AgreeButSpare (text other : List UInt8) : Prop where
  length : text.length = other.length
  before_last : text.dropLast = other.dropLast
  whole : text.length % 4 = 0 → text.getLast? = other.getLast?
  two : text.length % 4 = 2 → lastWithout 4 text = lastWithout 4 other
  three : text.length % 4 = 3 → lastWithout 2 text = lastWithout 2 other

theorem last_without_concat (bits : Nat) (front : List UInt8) (last : Sextet) :
    lastWithout bits (front ++ [symbolByte last]) = some (last.val / 2 ^ bits) := by
  have read : value? (symbolByte last) = some last := value_symbol last
  rw [lastWithout, List.getLast?_concat, Option.bind_some, read, Option.map_some]

theorem agree_endings_iff (front otherFront : List UInt8) (last otherLast : Sextet)
    (complete : (front.length + 1) % 4 ≠ 1) :
    AgreeButSpare (front ++ [symbolByte last]) (otherFront ++ [symbolByte otherLast]) ↔
      front = otherFront ∧
        last.val / 2 ^ spareBits (front.length + 1) =
          otherLast.val / 2 ^ spareBits (front.length + 1) := by
  have length : (front ++ [symbolByte last]).length = front.length + 1 := List.length_append
  constructor
  · intro agree
    have same := agree.before_last
    rw [List.dropLast_concat, List.dropLast_concat] at same
    refine ⟨same, ?_⟩
    -- A text that reads has no last group of a single symbol.
    have group :
        (front.length + 1) % 4 = 0 ∨ (front.length + 1) % 4 = 2 ∨ (front.length + 1) % 4 = 3 := by
      omega
    rcases group with whole | two | three
    · have lasts := agree.whole (by rw [length, whole])
      rw [List.getLast?_concat, List.getLast?_concat, Option.some_inj, symbol_byte_inj] at lasts
      rw [lasts]
    · have lasts := agree.two (by rw [length, two])
      rw [last_without_concat, last_without_concat, Option.some_inj] at lasts
      rw [spare_bits_of_two two, lasts]
    · have lasts := agree.three (by rw [length, three])
      rw [last_without_concat, last_without_concat, Option.some_inj] at lasts
      rw [spare_bits_of_three three, lasts]
  · rintro ⟨rfl, high⟩
    constructor
    · rw [List.length_append, List.length_append, List.length_singleton, List.length_singleton]
    · rw [List.dropLast_concat, List.dropLast_concat]
    · intro whole
      rw [length] at whole
      rw [← clear_low_eq_iff, spare_bits_of_whole whole, clear_low_zero, clear_low_zero] at high
      rw [high]
    · intro two
      rw [length] at two
      rw [spare_bits_of_two two] at high
      rw [last_without_concat, last_without_concat, high]
    · intro three
      rw [length] at three
      rw [spare_bits_of_three three] at high
      rw [last_without_concat, last_without_concat, high]

theorem WrittenAgain.same_iff {text other written otherWritten : List UInt8}
    (again : WrittenAgain text written) (otherAgain : WrittenAgain other otherWritten)
    (complete : text.length % 4 ≠ 1) :
    written = otherWritten ↔ AgreeButSpare text other := by
  cases again with
  | empty =>
      cases otherAgain with
      | empty => exact iff_of_true rfl (by constructor <;> simp)
      | ending otherFront otherLast =>
          apply iff_of_false
          · exact List.append_ne_nil_of_right_ne_nil _ (List.cons_ne_nil _ _) ∘ Eq.symm
          · intro agree
            simpa using agree.length
  | ending front last =>
      cases otherAgain with
      | empty =>
          apply iff_of_false
          · exact List.append_ne_nil_of_right_ne_nil _ (List.cons_ne_nil _ _)
          · intro agree
            simpa using agree.length
      | ending otherFront otherLast =>
          rw [List.length_append, List.length_singleton] at complete
          rw [agree_endings_iff _ _ _ _ complete, List.append_singleton_inj, symbol_byte_inj]
          constructor
          · rintro ⟨rfl, lasts⟩
            exact ⟨rfl, (clear_low_eq_iff _ _ _).mp lasts⟩
          · rintro ⟨rfl, high⟩
            exact ⟨rfl, (clear_low_eq_iff _ _ _).mpr high⟩

/-- Writing what was read gives the text again without the spare bits of its last
symbol. Texts that read are therefore read as the same bytes exactly if they differ in
these bits at most. -/
theorem rewriting_clears_spare_bits :
    (∀ text bytes, decode text = .ok bytes → LastCleared text (Text.bytes (encode bytes))) ∧
    ∀ text other bytes otherBytes, decode text = .ok bytes → decode other = .ok otherBytes →
      (bytes = otherBytes ↔ AgreeButSpare text other) := by
  constructor
  · intro text bytes read
    exact (written_again read).last_cleared
  · intro text other bytes otherBytes read otherRead
    rw [← encode_bytes_inj]
    exact (written_again read).same_iff (written_again otherRead) (symbols_of_decode read).1

/-- Two spellings of four bytes, five bytes with both spare bits set, and two texts of
whole groups. -/
theorem rewriting_clears_spare_bits_each_group :
    let spelled := Text.bytes "abcdXO"
    let respelled := Text.bytes "abcdXT"
    let three := Text.bytes "abcdXX9"
    let whole := Text.bytes "abcd"
    let otherWhole := Text.bytes "abcf"
    (decode spelled = .ok [113, 215, 159, 101] ∧ decode respelled = .ok [113, 215, 159, 101] ∧
      LastCleared respelled (Text.bytes "abcdXO") ∧ AgreeButSpare spelled respelled) ∧
    (decode three = .ok [113, 215, 159, 101, 159] ∧ LastCleared three (Text.bytes "abcdXX6")) ∧
    (decode whole = .ok [113, 215, 159] ∧ decode otherWhole = .ok [113, 215, 161] ∧
      LastCleared whole whole ∧ ¬AgreeButSpare whole otherWhole) := by
  intro spelled respelled three whole otherWhole
  have spelledRead : decode spelled = .ok [113, 215, 159, 101] := by decide +kernel
  have respelledRead : decode respelled = .ok [113, 215, 159, 101] := by decide +kernel
  have threeRead : decode three = .ok [113, 215, 159, 101, 159] := by decide +kernel
  have wholeRead : decode whole = .ok [113, 215, 159] := by decide +kernel
  have otherWholeRead : decode otherWhole = .ok [113, 215, 161] := by decide +kernel
  have fourWritten : Text.bytes (encode [113, 215, 159, 101]) = Text.bytes "abcdXO" := by
    decide +kernel
  have fiveWritten : Text.bytes (encode [113, 215, 159, 101, 159]) = Text.bytes "abcdXX6" := by
    decide +kernel
  have threeWritten : Text.bytes (encode [113, 215, 159]) = whole := by decide +kernel
  rcases rewriting_clears_spare_bits with ⟨cleared, same⟩
  have respelledCleared := cleared respelled _ respelledRead
  have threeCleared := cleared three _ threeRead
  have wholeCleared := cleared whole _ wholeRead
  rw [fourWritten] at respelledCleared
  rw [fiveWritten] at threeCleared
  rw [threeWritten] at wholeCleared
  have agree := (same _ _ _ _ spelledRead respelledRead).mp rfl
  have differ := mt (same _ _ _ _ wholeRead otherWholeRead).mpr (by decide)
  exact ⟨⟨spelledRead, respelledRead, respelledCleared, agree⟩, ⟨threeRead, threeCleared⟩,
    wholeRead, otherWholeRead, wholeCleared, differ⟩

end Bcrypt.Radix64
