import Bcrypt.Proofs.HashString.Reformatting

/-!
# The fields of a text, and its other spellings

Every field of a hash string stands at a fixed offset, so it can be cut out of the text
without reading the rest. The salt reads from its symbols as they stand; the symbols of
the digest are those that writing it gives, once the spare bits of the last one are
cleared. Another version tag or other spare bits are only another spelling: the text
still reads, with the same cost, salt and digest.
-/

set_option autoImplicit false

namespace Bcrypt.HashString

open Radix64 (Sextet Spells symbolByte clearLow sextets IsSymbol)

def costField (text : String) : Nat := Nat.ofDigitChars 10 ((text.toList.drop 4).take 2) 0

def saltField (text : String) : List UInt8 := ((Text.bytes text).drop 7).take 22

def digestField (text : String) : List UInt8 := ((Text.bytes text).drop 29).take 31

/-- The symbol with the lowest bits of its value cleared. A byte that is no symbol is left alone. -/
def clearSymbol (bits : Nat) (byte : UInt8) : UInt8 :=
  match Radix64.value? byte with
  | some value => symbolByte (clearLow bits value)
  | none => byte

theorem clear_symbol_byte (bits : Nat) (value : Sextet) :
    clearSymbol bits (symbolByte value) = symbolByte (clearLow bits value) := by
  have read := (Radix64.value_eq_some_iff (symbolByte value) value).mpr rfl
  rw [clearSymbol, read]

section

variable {text : String} {parts : HashString} (read : parse text = .ok parts)

include read

theorem cost_field_of_parse : costField text = parts.cost.value := by
  obtain ⟨body, shaped, _⟩ := parse_sound read
  have front : ('$' :: (parts.version.tag.toList ++ ['$'])).length = 4 := by
    cases parts.version <;> rfl
  have split : text.toList =
      ('$' :: (parts.version.tag.toList ++ ['$'])) ++ (parts.cost.digits ++ '$' :: body) := by
    rw [shaped]
    simp
  have digits : parts.cost.digits.length = 2 := rfl
  rw [costField, split, List.drop_left' front, List.take_left' digits, Cost.digits_value]

theorem salt_field_of_parse : Salt.decode (saltField text) = .ok parts.salt := by
  obtain ⟨saltValues, digestValues, saltSpelled, digestSpelled, bytes⟩ :=
    (parse_eq_ok_iff text parts).mp read
  obtain ⟨saltLength, _⟩ := body_values_length saltSpelled digestSpelled
  have sized : (saltValues.map symbolByte).length = 22 := by rw [List.length_map, saltLength]
  rw [Salt.reads_size.reads_iff_spells]
  refine ⟨saltValues, saltSpelled, ?_⟩
  rw [saltField, bytes, List.drop_left' (header_length _ _ _), List.map_append,
    List.take_left' sized]

theorem digest_field_of_parse :
    ∃ values, Spells values parts.digest.bytes.toList ∧
      digestField text = values.map symbolByte := by
  obtain ⟨saltValues, digestValues, saltSpelled, digestSpelled, bytes⟩ :=
    (parse_eq_ok_iff text parts).mp read
  obtain ⟨saltLength, digestLength⟩ := body_values_length saltSpelled digestSpelled
  have front :
      (header parts.version parts.cost.tens parts.cost.ones ++ saltValues.map symbolByte).length =
        29 := by
    rw [List.length_append, header_length, List.length_map, saltLength]
  have sized : (digestValues.map symbolByte).length = 31 := by rw [List.length_map, digestLength]
  refine ⟨digestValues, digestSpelled, ?_⟩
  rw [digestField, bytes, List.map_append, ← List.append_assoc, List.drop_left' front,
    List.take_of_length_le (Nat.le_of_eq sized)]

/-- With the two spare bits of its last symbol cleared, the digest stands there as it
would be written. -/
theorem cleared_digest_of_parse :
    (digestField text).modify 30 (clearSymbol 2) = Text.bytes parts.digest.encode := by
  obtain ⟨values, spelled, field⟩ := digest_field_of_parse read
  obtain ⟨last, found, written⟩ := spelled.last_cleared spelled.length_of_vector
  have symbol : (values.map symbolByte)[30]? = some (symbolByte last) := by
    rw [List.getElem?_map, found]
    rfl
  rw [field, List.modify_eq_set, symbol, Option.getD_some, clear_symbol_byte, ← List.map_set,
    Digest.encode, Radix64.encode_bytes, written]
  rfl

end

theorem is_symbol_at {text : String} {offset : Nat} {value : Sextet} {byte : UInt8}
    (found : symbolAt text offset = some value) (read : (Text.bytes text)[offset]? = some byte) :
    IsSymbol byte := by
  rw [byte_of_symbol_at found, Option.some_inj] at read
  exact (Radix64.is_symbol_iff byte).mpr ⟨value, read⟩

theorem symbol_of_high_bits {text other : String} {offset bits : Nat} {value : Sextet}
    (found : symbolAt text offset = some value)
    (same : (symbolAt text offset).map (·.val / 2 ^ bits) =
      (symbolAt other offset).map (·.val / 2 ^ bits)) :
    ∃ otherValue, symbolAt other offset = some otherValue := by
  rw [found, Option.map_some] at same
  obtain ⟨otherValue, otherFound, _⟩ := Option.map_eq_some_iff.mp same.symm
  exact ⟨otherValue, otherFound⟩

section

variable {text other : String} {parts : HashString} (read : parse text = .ok parts)
  (same : SameButSpare text other)

include read same

theorem same_but_spare_symbols :
    (∃ value, symbolAt other 28 = some value) ∧ ∃ value, symbolAt other 59 = some value := by
  obtain ⟨saltEnd, digestEnd, cleared⟩ := print_of_parse read
  exact ⟨symbol_of_high_bits cleared.salt_last same.salt,
    symbol_of_high_bits cleared.digest_last same.digest⟩

theorem same_but_spare_length : (Text.bytes other).length = 60 := by
  obtain ⟨_, value, found⟩ := same_but_spare_symbols read same
  -- There is a byte at offset 59, and none at offset 60.
  have last := byte_of_symbol_at found
  have reached : 59 < (Text.bytes other).length := (List.getElem?_eq_some_iff.mp last).1
  have past := same.elsewhere 60 (by decide) (by decide)
  rw [List.getElem?_eq_none (Nat.le_of_eq (text_length_of_parse read)), eq_comm,
    List.getElem?_eq_none_iff] at past
  omega

theorem same_but_spare_symbol {body : List UInt8}
    (written : Written (Text.bytes text) parts.version parts.cost.tens parts.cost.ones body)
    (place : Nat) (byte : UInt8) (found : (Text.bytes other)[7 + place]? = some byte) :
    IsSymbol byte := by
  obtain ⟨⟨saltEnd, saltFound⟩, digestEnd, digestFound⟩ := same_but_spare_symbols read same
  have front := header_length parts.version parts.cost.tens parts.cost.ones
  by_cases saltPlace : 7 + place = 28
  · rw [saltPlace] at found
    exact is_symbol_at saltFound found
  · by_cases digestPlace : 7 + place = 59
    · rw [digestPlace] at found
      exact is_symbol_at digestFound found
    · rw [← same.elsewhere _ saltPlace digestPlace, written.bytes,
        List.getElem?_append_right (by omega), front, Nat.add_sub_cancel_left] at found
      exact written.symbols byte (List.mem_of_getElem? found)

theorem written_of_same_but_spare :
    ∃ body, Written (Text.bytes other) parts.version parts.cost.tens parts.cost.ones body := by
  obtain ⟨body, written⟩ := written_of_parse read
  have length := same_but_spare_length read same
  have front := header_length parts.version parts.cost.tens parts.cost.ones
  have head : (Text.bytes other).take 7 = header parts.version parts.cost.tens parts.cost.ones := by
    apply List.ext_getElem?
    intro offset
    by_cases inside : offset < 7
    · rw [List.getElem?_take_of_lt inside, ← same.elsewhere offset (by omega) (by omega),
        written.bytes, List.getElem?_append_left (by omega)]
    · rw [List.getElem?_eq_none (by rw [List.length_take]; omega), List.getElem?_eq_none (by omega)]
  refine ⟨(Text.bytes other).drop 7, length, ?_, written.least_le, written.le_greatest, ?_, ?_⟩
  · rw [← head, List.take_append_drop]
  · rw [List.length_drop, length]
  · intro byte member
    obtain ⟨place, found⟩ := List.mem_iff_getElem?.mp member
    rw [List.getElem?_drop] at found
    exact same_but_spare_symbol read same written place byte found

theorem parse_of_same_but_spare : parse other = .ok parts := by
  obtain ⟨body, written⟩ := written_of_same_but_spare read same
  obtain ⟨otherParts, otherRead, _⟩ := parse_of_written written
  rw [otherRead, (parts_eq_iff read otherRead).mpr same]

end

theorem header_tag (version : Version) (tens ones : Fin 10) :
    ((header version tens ones).drop 1).take 2 = Text.bytes version.tag := by
  rw [header, List.append_assoc, List.singleton_append, List.drop_one, List.tail_cons,
    List.take_left' (tag_bytes_length version)]

theorem header_other_byte (version other : Version) (tens ones : Fin 10) (offset : Nat)
    (notFirst : offset ≠ 1) (notSecond : offset ≠ 2) :
    (header version tens ones)[offset]? = (header other tens ones)[offset]? := by
  have pair (version : Version) : ∃ letter, Text.bytes version.tag = ['2'.toUInt8, letter] := by
    cases version <;> exact ⟨_, rfl⟩
  obtain ⟨letter, tag⟩ := pair version
  obtain ⟨otherLetter, otherTag⟩ := pair other
  rw [header, header, tag, otherTag]
  by_cases start : offset = 0
  · subst start
    rfl
  · obtain ⟨place, rfl⟩ : ∃ place, offset = place + 3 := ⟨offset - 3, by omega⟩
    rfl

theorem parse_with_tag {text : String} {parts : HashString} (read : parse text = .ok parts)
    (version : Version) :
    ∃ retagged, parse retagged = .ok { parts with version := version } ∧
      ((Text.bytes retagged).drop 1).take 2 = Text.bytes version.tag ∧
      ∀ offset, offset ≠ 1 → offset ≠ 2 →
        (Text.bytes retagged)[offset]? = (Text.bytes text)[offset]? := by
  obtain ⟨body, shaped, bodyRead⟩ := parse_sound read
  let retagged := '$' :: (version.tag.toList ++ '$' :: (parts.cost.digits ++ '$' :: body))
  have characters : (String.ofList retagged).toList = retagged := String.toList_ofList
  refine ⟨String.ofList retagged, parse_complete characters bodyRead, ?_, ?_⟩
  · rw [Text.bytes, characters, fields_bytes, ← header_tag version parts.cost.tens parts.cost.ones,
      List.drop_append_of_le_length (by rw [header_length]; decide),
      List.take_append_of_le_length (by rw [List.length_drop, header_length]; decide)]
  · intro offset notFirst notSecond
    rw [Text.bytes, characters, fields_bytes, Text.bytes, shaped, fields_bytes,
      List.getElem?_append, List.getElem?_append, header_length, header_length,
      header_other_byte version parts.version _ _ offset notFirst notSecond]

/-- The second text has one of the tags and differs from the first in nothing but tag
and spare bits. -/
structure Respelled (text other : String) : Prop where
  tag : ∃ version : Version, ((Text.bytes other).drop 1).take 2 = Text.bytes version.tag
  elsewhere : ∀ offset, offset ≠ 1 → offset ≠ 2 → offset ≠ 28 → offset ≠ 59 →
    (Text.bytes text)[offset]? = (Text.bytes other)[offset]?
  salt : (symbolAt text 28).map (·.val / 2 ^ 4) = (symbolAt other 28).map (·.val / 2 ^ 4)
  digest : (symbolAt text 59).map (·.val / 2 ^ 2) = (symbolAt other 59).map (·.val / 2 ^ 2)

theorem respelled_of_set {text other : String} {version : Version}
    {letter saltSymbol digestSymbol : UInt8}
    (changed : Text.bytes other =
      (((Text.bytes text).set 2 letter).set 28 saltSymbol).set 59 digestSymbol)
    (tag : ((Text.bytes other).drop 1).take 2 = Text.bytes version.tag)
    (salt : (symbolAt text 28).map (·.val / 2 ^ 4) = (symbolAt other 28).map (·.val / 2 ^ 4))
    (digest : (symbolAt text 59).map (·.val / 2 ^ 2) = (symbolAt other 59).map (·.val / 2 ^ 2)) :
    Respelled text other := by
  refine ⟨⟨version, tag⟩, ?_, salt, digest⟩
  intro offset _ notTag notSalt notDigest
  rw [changed, List.getElem?_set_ne (Ne.symm notDigest), List.getElem?_set_ne (Ne.symm notSalt),
    List.getElem?_set_ne (Ne.symm notTag)]

theorem tag_byte {text tag : List UInt8} (cut : (text.drop 1).take 2 = tag) (place : Nat)
    (inside : place < 2) : text[place + 1]? = tag[place]? := by
  rw [← cut, List.getElem?_take_of_lt inside, List.getElem?_drop, Nat.add_comm]

theorem Respelled.same_but_spare {text other retagged : String} (respelled : Respelled text other)
    (tag : ((Text.bytes retagged).drop 1).take 2 = ((Text.bytes other).drop 1).take 2)
    (kept : ∀ offset, offset ≠ 1 → offset ≠ 2 →
      (Text.bytes retagged)[offset]? = (Text.bytes text)[offset]?) :
    SameButSpare retagged other := by
  refine ⟨?_, ?_, ?_⟩
  · intro offset notSalt notDigest
    by_cases inTag : offset = 1 ∨ offset = 2
    · obtain ⟨place, inside, rfl⟩ : ∃ place, place < 2 ∧ offset = place + 1 :=
        ⟨offset - 1, by omega, by omega⟩
      rw [tag_byte tag place inside, tag_byte rfl place inside]
    · rw [not_or] at inTag
      rw [kept offset inTag.1 inTag.2, respelled.elsewhere offset inTag.1 inTag.2 notSalt notDigest]
  · rw [symbolAt, kept 28 (by decide) (by decide)]
    exact respelled.salt
  · rw [symbolAt, kept 59 (by decide) (by decide)]
    exact respelled.digest

theorem parse_respelled {text other : String} {parts : HashString} (read : parse text = .ok parts)
    (respelled : Respelled text other) :
    ∃ version, parse other = .ok { parts with version := version } := by
  obtain ⟨version, tag⟩ := respelled.tag
  obtain ⟨retagged, retaggedRead, retaggedTag, kept⟩ := parse_with_tag read version
  have same : SameButSpare retagged other :=
    respelled.same_but_spare (retaggedTag.trans tag.symm) kept
  exact ⟨version, parse_of_same_but_spare retaggedRead same⟩

end Bcrypt.HashString
