import Bcrypt.Proofs.HashString.Language

/-!
# Reading and writing again

Twenty-two symbols hold four bits more than a salt, thirty-one hold two bits more than a
digest. Reading drops these spare bits and writing leaves them zero. All other
characters come back as they were, so two texts are the same hash string exactly if they
differ in spare bits alone.
-/

set_option autoImplicit false

namespace Bcrypt.HashString

open Radix64 (Sextet Spells symbolByte clearLow sextets)

def reformat (text : String) : Except Error String := (parse text).map print

def symbolAt (text : String) (offset : Nat) : Option Sextet :=
  (Text.bytes text)[offset]?.bind Radix64.value?

theorem symbol_at_of_byte {text : String} {offset : Nat} {value : Sextet}
    (byte : (Text.bytes text)[offset]? = some (symbolByte value)) :
    symbolAt text offset = some value := by
  rw [symbolAt, byte, Option.bind_some]
  exact (Radix64.value_eq_some_iff _ value).mpr rfl

theorem byte_of_symbol_at {text : String} {offset : Nat} {value : Sextet}
    (found : symbolAt text offset = some value) :
    (Text.bytes text)[offset]? = some (symbolByte value) := by
  obtain ⟨byte, read, same⟩ := Option.bind_eq_some_iff.mp found
  rw [read, (Radix64.value_eq_some_iff byte value).mp same]

theorem print_bytes (parts : HashString) :
    Text.bytes parts.print = header parts.version parts.cost.tens parts.cost.ones ++
      (sextets parts.salt.bytes.toList ++ sextets parts.digest.bytes.toList).map symbolByte := by
  have encoded : parts.salt.encode.toList ++ parts.digest.encode.toList =
      (sextets parts.salt.bytes.toList ++ sextets parts.digest.bytes.toList).map
        Radix64.symbol := by
    rw [Salt.encode, Digest.encode, Radix64.encode_to_list, Radix64.encode_to_list, List.map_append]
  rw [Text.bytes, print_to_list, encoded, fields_bytes, symbols_bytes]

theorem print_injective {parts other : HashString} (same : parts.print = other.print) :
    parts = other := by
  have read := parse_print parts
  rw [same, parse_print] at read
  exact (Except.ok.inj read).symm

section

variable {head : List UInt8} {saltValues digestValues : List Sextet} (front : head.length = 7)
  (saltLength : saltValues.length = 22)

include front saltLength

theorem salt_symbol_at (place : Nat) (inside : place < 22) :
    (head ++ (saltValues ++ digestValues).map symbolByte)[7 + place]? =
      saltValues[place]?.map symbolByte := by
  rw [List.getElem?_append_right (by omega), front, Nat.add_sub_cancel_left, List.getElem?_map,
    List.getElem?_append_left (by omega)]

theorem digest_symbol_at (place : Nat) :
    (head ++ (saltValues ++ digestValues).map symbolByte)[29 + place]? =
      digestValues[place]?.map symbolByte := by
  have behind : 29 + place - 7 - 22 = place := by omega
  rw [List.getElem?_append_right (by omega), front, List.getElem?_map,
    List.getElem?_append_right (by omega), saltLength, behind]

theorem set_salt_symbol (place : Nat) (inside : place < 22) (value : Sextet) :
    (head ++ (saltValues ++ digestValues).map symbolByte).set (7 + place) (symbolByte value) =
      head ++ (saltValues.set place value ++ digestValues).map symbolByte := by
  rw [List.set_append_right _ _ (by omega), front, Nat.add_sub_cancel_left, ← List.map_set,
    List.set_append_left _ _ (by omega)]

theorem set_digest_symbol (place : Nat) (value : Sextet) :
    (head ++ (saltValues ++ digestValues).map symbolByte).set (29 + place) (symbolByte value) =
      head ++ (saltValues ++ digestValues.set place value).map symbolByte := by
  have behind : 29 + place - 7 - 22 = place := by omega
  rw [List.set_append_right _ _ (by omega), front, ← List.map_set,
    List.set_append_right _ _ (by omega), saltLength, behind]

end

/-- The second text is the first with the spare bits of its two last symbols cleared,
four bits at the end of the salt and two at the end of the digest. -/
structure SpareCleared (text printed : String) (saltEnd digestEnd : Sextet) : Prop where
  salt_last : symbolAt text 28 = some saltEnd
  digest_last : symbolAt text 59 = some digestEnd
  bytes : Text.bytes printed =
    ((Text.bytes text).set 28 (symbolByte (clearLow 4 saltEnd))).set 59
      (symbolByte (clearLow 2 digestEnd))

theorem print_of_parse {text : String} {parts : HashString} (read : parse text = .ok parts) :
    ∃ saltEnd digestEnd, SpareCleared text parts.print saltEnd digestEnd := by
  obtain ⟨saltValues, digestValues, saltSpelled, digestSpelled, bytes⟩ :=
    (parse_eq_ok_iff text parts).mp read
  obtain ⟨saltLength, digestLength⟩ := body_values_length saltSpelled digestSpelled
  obtain ⟨saltEnd, saltLast, saltWritten⟩ := saltSpelled.last_cleared saltLength
  obtain ⟨digestEnd, digestLast, digestWritten⟩ := digestSpelled.last_cleared digestLength
  have front := header_length parts.version parts.cost.tens parts.cost.ones
  -- Offset 28 is place 21 of the salt's values, and offset 59 place 30 of the digest's.
  refine ⟨saltEnd, digestEnd, ?_, ?_, ?_⟩
  · apply symbol_at_of_byte
    rw [bytes, salt_symbol_at front saltLength 21 (by decide), saltLast]
    rfl
  · apply symbol_at_of_byte
    rw [bytes, digest_symbol_at front saltLength 30, digestLast]
    rfl
  · have saltCleared : (saltValues.set 21 (clearLow 4 saltEnd)).length = 22 := by
      rw [List.length_set, saltLength]
    rw [print_bytes, saltWritten, digestWritten, bytes,
      set_salt_symbol front saltLength 21 (by decide), set_digest_symbol front saltCleared 30]
    rfl

theorem set_pair_eq_iff {α : Type} {first second : List α} {place other : Nat}
    (apart : place ≠ other) (sized : first.length = second.length) (inside : place < first.length)
    (otherInside : other < first.length) (a b c d : α) :
    (first.set place a).set other b = (second.set place c).set other d ↔
      (∀ index, index ≠ place → index ≠ other → first[index]? = second[index]?) ∧
        a = c ∧ b = d := by
  constructor
  · intro same
    have at_index (index : Nat) := congrArg (·[index]?) same
    refine ⟨?_, ?_, ?_⟩
    · intro index notPlace notOther
      simpa [List.getElem?_set_ne, notPlace.symm, notOther.symm] using at_index index
    · have found := at_index place
      rw [List.getElem?_set_ne apart.symm, List.getElem?_set_ne apart.symm,
        List.getElem?_set_self inside, List.getElem?_set_self (sized ▸ inside)] at found
      exact Option.some.inj found
    · have found := at_index other
      rw [List.getElem?_set_self (by simpa using otherInside),
        List.getElem?_set_self (by simpa [← sized] using otherInside)] at found
      exact Option.some.inj found
  · rintro ⟨same, rfl, rfl⟩
    apply List.ext_getElem?
    intro index
    by_cases atOther : other = index
    · simp [List.getElem?_set, atOther, sized]
    · by_cases atPlace : place = index
      · simp [List.getElem?_set, atOther, atPlace, sized]
      · simpa [List.getElem?_set, atOther, atPlace] using
          same index (Ne.symm atPlace) (Ne.symm atOther)

theorem set_same {α : Type} {values : List α} {place : Nat} {value : α}
    (found : values[place]? = some value) : values.set place value = values := by
  obtain ⟨inside, rfl⟩ := List.getElem?_eq_some_iff.mp found
  exact List.set_getElem_self inside

theorem text_length_of_parse {text : String} {parts : HashString} (read : parse text = .ok parts) :
    (Text.bytes text).length = 60 := by
  obtain ⟨body, written⟩ := written_of_parse read
  exact written.length

theorem SpareCleared.unchanged_iff {text printed : String} {saltEnd digestEnd : Sextet}
    (cleared : SpareCleared text printed saltEnd digestEnd)
    (length : (Text.bytes text).length = 60) :
    printed = text ↔ saltEnd.val % 2 ^ 4 = 0 ∧ digestEnd.val % 2 ^ 2 = 0 := by
  have written : Text.bytes text =
      ((Text.bytes text).set 28 (symbolByte saltEnd)).set 59 (symbolByte digestEnd) := by
    rw [set_same (byte_of_symbol_at cleared.salt_last),
      set_same (byte_of_symbol_at cleared.digest_last)]
  have bytes : printed = text ↔ Text.bytes printed =
      ((Text.bytes text).set 28 (symbolByte saltEnd)).set 59 (symbolByte digestEnd) := by
    rw [← written]
    exact ⟨congrArg Text.bytes, Text.bytes_injective⟩
  rw [bytes, cleared.bytes, set_pair_eq_iff (by decide) rfl (by omega) (by omega),
    Radix64.symbol_byte_inj, Radix64.symbol_byte_inj, Radix64.clear_low_eq_self_iff,
    Radix64.clear_low_eq_self_iff]
  exact and_iff_right fun _ _ _ => rfl

structure SameButSpare (text other : String) : Prop where
  elsewhere : ∀ offset, offset ≠ 28 → offset ≠ 59 →
    (Text.bytes text)[offset]? = (Text.bytes other)[offset]?
  salt : (symbolAt text 28).map (·.val / 2 ^ 4) = (symbolAt other 28).map (·.val / 2 ^ 4)
  digest : (symbolAt text 59).map (·.val / 2 ^ 2) = (symbolAt other 59).map (·.val / 2 ^ 2)

theorem parts_eq_iff {text other : String} {parts otherParts : HashString}
    (read : parse text = .ok parts) (otherRead : parse other = .ok otherParts) :
    parts = otherParts ↔ SameButSpare text other := by
  obtain ⟨saltEnd, digestEnd, cleared⟩ := print_of_parse read
  obtain ⟨otherSaltEnd, otherDigestEnd, otherCleared⟩ := print_of_parse otherRead
  have length := text_length_of_parse read
  have otherLength := text_length_of_parse otherRead
  have bytes : parts = otherParts ↔ Text.bytes parts.print = Text.bytes otherParts.print := by
    constructor
    · rintro rfl
      rfl
    · intro same
      exact print_injective (Text.bytes_injective same)
  rw [bytes, cleared.bytes, otherCleared.bytes,
    set_pair_eq_iff (by decide) (by rw [length, otherLength]) (by omega) (by omega),
    Radix64.symbol_byte_inj, Radix64.symbol_byte_inj, Radix64.clear_low_eq_iff,
    Radix64.clear_low_eq_iff]
  constructor
  · rintro ⟨elsewhere, salt, digest⟩
    refine ⟨elsewhere, ?_, ?_⟩
    · rw [cleared.salt_last, otherCleared.salt_last, Option.map_some, Option.map_some, salt]
    · rw [cleared.digest_last, otherCleared.digest_last, Option.map_some, Option.map_some, digest]
  · rintro ⟨elsewhere, salt, digest⟩
    rw [cleared.salt_last, otherCleared.salt_last] at salt
    rw [cleared.digest_last, otherCleared.digest_last] at digest
    exact ⟨elsewhere, Option.some.inj salt, Option.some.inj digest⟩

theorem reformat_of_parse {text : String} {parts : HashString} (read : parse text = .ok parts) :
    reformat text = .ok parts.print := by
  rw [reformat, read]
  rfl

/-- Writing what was read changes two characters at most, the last of the salt and the
last of the digest, whose spare bits it clears; a second time nothing changes. So a text
comes back unchanged exactly if these bits are zero, and texts are read as the same hash
string exactly if they differ in these bits alone. -/
theorem reformatting_clears_spare_bits :
    (∀ text parts, parse text = .ok parts → ∃ printed saltEnd digestEnd,
      reformat text = .ok printed ∧ reformat printed = .ok printed ∧
      SpareCleared text printed saltEnd digestEnd ∧
      (printed = text ↔ saltEnd.val % 2 ^ 4 = 0 ∧ digestEnd.val % 2 ^ 2 = 0)) ∧
    ∀ text other parts otherParts, parse text = .ok parts → parse other = .ok otherParts →
      (parts = otherParts ↔ SameButSpare text other) := by
  constructor
  · intro text parts read
    obtain ⟨saltEnd, digestEnd, cleared⟩ := print_of_parse read
    have again := reformat_of_parse (parse_print parts)
    have unchanged := cleared.unchanged_iff (text_length_of_parse read)
    exact ⟨parts.print, saltEnd, digestEnd, reformat_of_parse read, again, cleared, unchanged⟩
  · intro text other parts otherParts read otherRead
    exact parts_eq_iff read otherRead

/-- A text with all six spare bits set, and the same with all of them cleared. -/
theorem reformatting_set_spare_bits :
    ∃ parts, parse "$2a$06$If6bvum7DFjUnE9p2uDeD90YHzrHM6tf.iqN8.yx.jNN1ILEf7h0l" = .ok parts ∧
      parse "$2a$06$If6bvum7DFjUnE9p2uDeDu0YHzrHM6tf.iqN8.yx.jNN1ILEf7h0i" = .ok parts ∧
      SameButSpare "$2a$06$If6bvum7DFjUnE9p2uDeD90YHzrHM6tf.iqN8.yx.jNN1ILEf7h0l"
        "$2a$06$If6bvum7DFjUnE9p2uDeDu0YHzrHM6tf.iqN8.yx.jNN1ILEf7h0i" ∧
      ∃ printed,
        reformat "$2a$06$If6bvum7DFjUnE9p2uDeD90YHzrHM6tf.iqN8.yx.jNN1ILEf7h0l" = .ok printed ∧
        reformat printed = .ok printed ∧
        SpareCleared "$2a$06$If6bvum7DFjUnE9p2uDeD90YHzrHM6tf.iqN8.yx.jNN1ILEf7h0l" printed 63 39 ∧
        printed ≠ "$2a$06$If6bvum7DFjUnE9p2uDeD90YHzrHM6tf.iqN8.yx.jNN1ILEf7h0l" := by
  let parts : HashString := ⟨.v2a, ⟨6, by decide, by decide⟩,
    ⟨#v[0x2a, 0x1f, 0x1d, 0xc7, 0x0a, 0x3d, 0x14, 0x79, 0x56, 0xa4, 0x6f, 0xeb, 0xe3, 0x01, 0x60,
      0x17]⟩,
    ⟨#v[0xd9, 0xa2, 0x75, 0xb4, 0x93, 0xbc, 0xbe, 0x10, 0x24, 0xb0, 0xff, 0x80, 0xd3, 0x30, 0x25,
      0x3c, 0xfd, 0xca, 0x34, 0x68, 0x7d, 0x8f, 0x69]⟩⟩
  have read : parse "$2a$06$If6bvum7DFjUnE9p2uDeD90YHzrHM6tf.iqN8.yx.jNN1ILEf7h0l" = .ok parts := by
    decide +kernel
  have clearedRead :
      parse "$2a$06$If6bvum7DFjUnE9p2uDeDu0YHzrHM6tf.iqN8.yx.jNN1ILEf7h0i" = .ok parts := by
    decide +kernel
  have saltLast :
      symbolAt "$2a$06$If6bvum7DFjUnE9p2uDeD90YHzrHM6tf.iqN8.yx.jNN1ILEf7h0l" 28 = some 63 := by
    decide +kernel
  have digestLast :
      symbolAt "$2a$06$If6bvum7DFjUnE9p2uDeD90YHzrHM6tf.iqN8.yx.jNN1ILEf7h0l" 59 = some 39 := by
    decide +kernel
  obtain ⟨reformats, same⟩ := reformatting_clears_spare_bits
  obtain ⟨printed, saltEnd, digestEnd, once, twice, cleared, unchanged⟩ := reformats _ parts read
  obtain rfl := Option.some.inj (saltLast.symm.trans cleared.salt_last)
  obtain rfl := Option.some.inj (digestLast.symm.trans cleared.digest_last)
  have agree := (same _ _ parts parts read clearedRead).mp rfl
  refine ⟨parts, read, clearedRead, agree, printed, once, twice, cleared, ?_⟩
  intro equal
  exact absurd (unchanged.mp equal).1 (by decide)

end Bcrypt.HashString
