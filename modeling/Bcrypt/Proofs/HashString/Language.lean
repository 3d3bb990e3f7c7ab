import Bcrypt.Proofs.HashString.Fields

/-!
# The language of hash strings

A hash string is sixty bytes: `$`, a version tag, `$`, two digits for a cost in range,
`$`, and fifty-three symbols of radix-64. Nothing else is read, and this is also what is
written. All of it is ASCII, so the bytes of such a text leave no choice for its
characters.
-/

set_option autoImplicit false

namespace Bcrypt

open Radix64 (Sextet Spells symbolByte IsSymbol)

namespace HashString

def digitByte (digit : Fin 10) : UInt8 := '0'.toUInt8 + UInt8.ofNat digit.val

def header (version : Version) (tens ones : Fin 10) : List UInt8 :=
  ['$'.toUInt8] ++ Text.bytes version.tag ++
    ['$'.toUInt8, digitByte tens, digitByte ones, '$'.toUInt8]

theorem header_length (version : Version) (tens ones : Fin 10) :
    (header version tens ones).length = 7 := by
  simp [header, tag_bytes_length]

theorem separator_bytes : String.utf8EncodeChar '$' = ['$'.toUInt8] := by
  decide

theorem digits_bytes (cost : Cost) :
    Text.utf8 cost.digits = [digitByte cost.tens, digitByte cost.ones] := by
  have single : ∀ digit : Fin 10,
      String.utf8EncodeChar (Nat.digitChar digit.val) = [digitByte digit] := by
    decide
  rw [Cost.digits, Text.utf8_cons, Text.utf8_cons, Text.utf8_nil]
  exact congrArg₂ (· ++ ·) (single cost.tens) (congrArg (· ++ []) (single cost.ones))

theorem fields_bytes (version : Version) (cost : Cost) (body : List Char) :
    Text.utf8 ('$' :: (version.tag.toList ++ '$' :: (cost.digits ++ '$' :: body))) =
      header version cost.tens cost.ones ++ Text.utf8 body := by
  simp only [Text.utf8_cons, Text.utf8_append, separator_bytes, digits_bytes, header, Text.bytes]
  simp only [List.append_assoc]
  rfl

theorem symbols_bytes (values : List Sextet) :
    Text.utf8 (values.map Radix64.symbol) = values.map symbolByte := by
  have ascii : ∀ character ∈ values.map Radix64.symbol, character.toNat < 128 := by
    intro character member
    obtain ⟨value, _, rfl⟩ := List.mem_map.mp member
    exact Radix64.symbol_ascii value
  rw [Text.utf8_of_ascii _ ascii, List.map_map]
  rfl

/-- A text reads as a hash string exactly if behind the header stand values that spell
the salt and the digest. -/
theorem parse_eq_ok_iff (text : String) (parts : HashString) :
    parse text = .ok parts ↔
      ∃ saltValues digestValues, Spells saltValues parts.salt.bytes.toList ∧
        Spells digestValues parts.digest.bytes.toList ∧
        Text.bytes text = header parts.version parts.cost.tens parts.cost.ones ++
          (saltValues ++ digestValues).map symbolByte := by
  constructor
  · intro read
    obtain ⟨body, shaped, bodyRead⟩ := parse_sound read
    obtain ⟨saltValues, digestValues, saltSpelled, digestSpelled, same⟩ :=
      (parse_body_iff _ _ _).mp bodyRead
    refine ⟨saltValues, digestValues, saltSpelled, digestSpelled, ?_⟩
    rw [Text.bytes, shaped, fields_bytes, same]
  · rintro ⟨saltValues, digestValues, saltSpelled, digestSpelled, same⟩
    have bodyBytes := symbols_bytes (saltValues ++ digestValues)
    -- The bytes leave only one choice for the characters.
    rw [← bodyBytes, ← fields_bytes, ← String.toList_ofList (l := '$' :: _)] at same
    have shaped := congrArg String.toList (Text.bytes_injective same)
    rw [String.toList_ofList] at shaped
    apply parse_complete shaped
    rw [bodyBytes, parse_body_iff]
    exact ⟨saltValues, digestValues, saltSpelled, digestSpelled, rfl⟩

structure Written (text : List UInt8) (version : Version) (tens ones : Fin 10) (body : List UInt8) :
    Prop where
  length : text.length = 60
  bytes : text = header version tens ones ++ body
  least_le : 4 ≤ 10 * tens.val + ones.val
  le_greatest : 10 * tens.val + ones.val ≤ 31
  body_length : body.length = 53
  symbols : ∀ byte ∈ body, IsSymbol byte

theorem body_values_length {saltValues digestValues : List Sextet} {salt : Salt} {digest : Digest}
    (saltSpelled : Spells saltValues salt.bytes.toList)
    (digestSpelled : Spells digestValues digest.bytes.toList) :
    saltValues.length = 22 ∧ digestValues.length = 31 :=
  ⟨saltSpelled.length_of_vector, digestSpelled.length_of_vector⟩

theorem written_of_parse {text : String} {parts : HashString} (read : parse text = .ok parts) :
    ∃ body, Written (Text.bytes text) parts.version parts.cost.tens parts.cost.ones body := by
  obtain ⟨saltValues, digestValues, saltSpelled, digestSpelled, bytes⟩ :=
    (parse_eq_ok_iff text parts).mp read
  obtain ⟨saltLength, digestLength⟩ := body_values_length saltSpelled digestSpelled
  have sized : ((saltValues ++ digestValues).map symbolByte).length = 53 := by
    rw [List.length_map, List.length_append, saltLength, digestLength]
  have value : 10 * parts.cost.tens.val + parts.cost.ones.val = parts.cost.value :=
    Nat.div_add_mod _ 10
  refine ⟨_, ⟨?_, bytes, ?_, ?_, sized, ?_⟩⟩
  · rw [bytes, List.length_append, header_length, sized]
  · rw [value]
    exact parts.cost.least_le
  · rw [value]
    exact parts.cost.le_greatest
  · intro byte member
    obtain ⟨value, _, rfl⟩ := List.mem_map.mp member
    exact (Radix64.is_symbol_iff _).mpr ⟨value, rfl⟩

theorem parse_of_written {text : String} {version : Version} {tens ones : Fin 10}
    {body : List UInt8} (written : Written (Text.bytes text) version tens ones body) :
    ∃ parts, parse text = .ok parts ∧ parts.version = version ∧
      parts.cost.value = 10 * tens.val + ones.val ∧
      Radix64.decode (body.take 22) = .ok parts.salt.bytes.toList ∧
      Radix64.decode (body.drop 22) = .ok parts.digest.bytes.toList := by
  obtain ⟨values, rfl⟩ := Radix64.values_of_symbols body written.symbols
  have sized := written.body_length
  rw [List.length_map] at sized
  have saltLength : (values.take 22).length = Radix64.encodedLength 16 := by
    rw [List.length_take, sized]
    rfl
  have digestLength : (values.drop 22).length = Radix64.encodedLength 23 := by
    rw [List.length_drop, sized]
    rfl
  obtain ⟨salt, saltSpelled⟩ := Radix64.vector_spelled (values.take 22) saltLength
  obtain ⟨digest, digestSpelled⟩ := Radix64.vector_spelled (values.drop 22) digestLength
  let cost : Cost := ⟨10 * tens.val + ones.val, written.least_le, written.le_greatest⟩
  have tensSame : cost.tens = tens := Fin.ext (by simp only [cost, Cost.tens]; omega)
  have onesSame : cost.ones = ones := Fin.ext (by simp only [cost, Cost.ones]; omega)
  refine ⟨⟨version, cost, ⟨salt⟩, ⟨digest⟩⟩, ?_, rfl, rfl, ?_, ?_⟩
  · apply (parse_eq_ok_iff _ _).mpr
    refine ⟨values.take 22, values.drop 22, saltSpelled, digestSpelled, ?_⟩
    rw [tensSame, onesSame, List.take_append_drop]
    exact written.bytes
  · rw [← List.map_take, Radix64.decode_eq_ok_iff]
    exact ⟨_, saltSpelled, rfl⟩
  · rw [← List.map_drop, Radix64.decode_eq_ok_iff]
    exact ⟨_, digestSpelled, rfl⟩

/-- The texts that read are those of sixty bytes with a known tag, two digits for a cost
from 4 to 31, and fifty-three symbols, each behind its separator. Tag, digits and
symbols then tell version, cost, salt and digest. -/
theorem reads_exactly_written (text : String) :
    ((∃ parts, parse text = .ok parts) ↔
      ∃ version tens ones body, Written (Text.bytes text) version tens ones body) ∧
    ∀ version tens ones body, Written (Text.bytes text) version tens ones body →
      ∃ parts, parse text = .ok parts ∧ parts.version = version ∧
        parts.cost.value = 10 * tens.val + ones.val ∧
        Radix64.decode (body.take 22) = .ok parts.salt.bytes.toList ∧
        Radix64.decode (body.drop 22) = .ok parts.digest.bytes.toList := by
  refine ⟨⟨?_, ?_⟩, ?_⟩
  · rintro ⟨parts, read⟩
    obtain ⟨body, written⟩ := written_of_parse read
    exact ⟨_, _, _, body, written⟩
  · rintro ⟨version, tens, ones, body, written⟩
    obtain ⟨parts, read, _⟩ := parse_of_written written
    exact ⟨parts, read⟩
  · intro version tens ones body written
    exact parse_of_written written

theorem reads_written_cost_six :
    Written (Text.bytes "$2a$06$If6bvum7DFjUnE9p2uDeDu0YHzrHM6tf.iqN8.yx.jNN1ILEf7h0i") .v2a 0 6
        (Text.bytes "If6bvum7DFjUnE9p2uDeDu0YHzrHM6tf.iqN8.yx.jNN1ILEf7h0i") ∧
      ∃ parts, parse "$2a$06$If6bvum7DFjUnE9p2uDeDu0YHzrHM6tf.iqN8.yx.jNN1ILEf7h0i" = .ok parts ∧
        parts.version = .v2a ∧ parts.cost.value = 10 * (0 : Fin 10).val + (6 : Fin 10).val ∧
        Radix64.decode
            ((Text.bytes "If6bvum7DFjUnE9p2uDeDu0YHzrHM6tf.iqN8.yx.jNN1ILEf7h0i").take 22) =
          .ok parts.salt.bytes.toList ∧
        Radix64.decode
            ((Text.bytes "If6bvum7DFjUnE9p2uDeDu0YHzrHM6tf.iqN8.yx.jNN1ILEf7h0i").drop 22) =
          .ok parts.digest.bytes.toList := by
  have written :
      Written (Text.bytes "$2a$06$If6bvum7DFjUnE9p2uDeDu0YHzrHM6tf.iqN8.yx.jNN1ILEf7h0i") .v2a 0 6
        (Text.bytes "If6bvum7DFjUnE9p2uDeDu0YHzrHM6tf.iqN8.yx.jNN1ILEf7h0i") := by
    constructor <;> decide +kernel
  exact ⟨written, (reads_exactly_written _).2 _ _ _ _ written⟩

section

variable {text body : List UInt8} {version : Version} {tens ones : Fin 10}
  (written : Written text version tens ones body)

include written

theorem separators_of_written (offset : Nat) :
    text[offset]? = some '$'.toUInt8 ↔ offset = 0 ∨ offset = 3 ∨ offset = 6 := by
  have two : '2'.toUInt8 ≠ '$'.toUInt8 := by decide
  have digit : ∀ digit : Fin 10, digitByte digit ≠ '$'.toUInt8 := by decide
  have behind (place : Nat) : body[place]? ≠ some '$'.toUInt8 := by
    intro found
    exact absurd (written.symbols _ (List.mem_of_getElem? found)) (by decide)
  obtain ⟨letter, tag, other⟩ :
      ∃ letter, Text.bytes version.tag = ['2'.toUInt8, letter] ∧ letter ≠ '$'.toUInt8 := by
    cases version <;> exact ⟨_, rfl, by decide⟩
  rw [written.bytes, header, tag]
  match offset with
  | 0 | 1 | 2 | 3 | 4 | 5 | 6 => simp [two, digit, other]
  | place + 7 => simpa using behind place

theorem ascii_of_written : ∀ byte ∈ text, byte < 128 := by
  have digit : ∀ digit : Fin 10, digitByte digit < 128 := by decide
  have tag : (Text.bytes version.tag).all (· < 128) = true := by
    cases version <;> decide
  intro byte member
  simp only [written.bytes, header, List.mem_append, List.mem_cons, List.not_mem_nil,
    or_false] at member
  rcases member with ((rfl | inTag) | rfl | rfl | rfl | rfl) | inBody
  · decide
  · exact of_decide_eq_true (List.all_eq_true.mp tag byte inTag)
  · decide
  · exact digit tens
  · exact digit ones
  · decide
  · have codes := (Radix64.is_symbol_codes byte).mp (written.symbols byte inBody)
    have bound : byte.toNat < 128 := by omega
    exact UInt8.lt_iff_toNat_lt.mpr bound

end

/-- Every hash string is written as sixty ASCII bytes, separated at the same three
places and nowhere else, and is read back as what it was. -/
theorem print_separated (parts : HashString) :
    (Text.bytes parts.print).length = 60 ∧ (∀ byte ∈ Text.bytes parts.print, byte < 128) ∧
      (∀ offset, (Text.bytes parts.print)[offset]? = some '$'.toUInt8 ↔
        offset = 0 ∨ offset = 3 ∨ offset = 6) ∧
      parse parts.print = .ok parts := by
  have read := parse_print parts
  obtain ⟨body, written⟩ := written_of_parse read
  exact ⟨print_bytes_length parts, ascii_of_written written, separators_of_written written, read⟩

end HashString

end Bcrypt
