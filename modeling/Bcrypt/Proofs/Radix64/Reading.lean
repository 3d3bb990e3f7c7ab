import Bcrypt.Proofs.Radix64
import Mathlib.Algebra.Group.Nat.Defs

/-!
# What reads as radix-64

A text reads exactly if its bytes are symbols and its length is that of an encoding, and
it then stands for the bytes that its values make up. One sequence of bytes can be
spelled in several ways, which differ in the low bits of the last value of a partial
group; writing what was read clears these spare bits and changes nothing else.
-/

set_option autoImplicit false

namespace Bcrypt

namespace Radix64

def symbolByte (value : Sextet) : UInt8 := (symbol value).toUInt8

def IsSymbol (byte : UInt8) : Prop :=
  byte = '.'.toUInt8 ∨ byte = '/'.toUInt8 ∨ ('A'.toUInt8 ≤ byte ∧ byte ≤ 'Z'.toUInt8) ∨
    ('a'.toUInt8 ≤ byte ∧ byte ≤ 'z'.toUInt8) ∨ ('0'.toUInt8 ≤ byte ∧ byte ≤ '9'.toUInt8)

instance (byte : UInt8) : Decidable (IsSymbol byte) :=
  inferInstanceAs (Decidable (_ ∨ _))

theorem is_symbol_codes (byte : UInt8) :
    IsSymbol byte ↔ (46 ≤ byte.toNat ∧ byte.toNat ≤ 47) ∨ (65 ≤ byte.toNat ∧ byte.toNat ≤ 90) ∨
      (97 ≤ byte.toNat ∧ byte.toNat ≤ 122) ∨ (48 ≤ byte.toNat ∧ byte.toNat ≤ 57) := by
  simp only [IsSymbol, ← UInt8.toNat_inj, UInt8.le_iff_toNat_le]
  change byte.toNat = 46 ∨ byte.toNat = 47 ∨ (65 ≤ byte.toNat ∧ byte.toNat ≤ 90) ∨
    (97 ≤ byte.toNat ∧ byte.toNat ≤ 122) ∨ (48 ≤ byte.toNat ∧ byte.toNat ≤ 57) ↔ _
  omega

theorem value_of_is_symbol {byte : UInt8} (isSymbol : IsSymbol byte) :
    ∃ value, value? byte = some value := by
  rw [is_symbol_codes] at isSymbol
  simp only [value?]
  split
  · exact ⟨_, rfl⟩
  · split
    · exact ⟨_, rfl⟩
    · split
      · exact ⟨_, rfl⟩
      · exact ⟨_, dif_pos (by omega)⟩

theorem byte_of_value_unique {byte other : UInt8} {value : Sextet} (read : value? byte = some value)
    (otherRead : value? other = some value) : byte = other := by
  apply UInt8.toNat_inj.mp
  simp only [value?] at read otherRead
  grind

theorem value_eq_some_iff (byte : UInt8) (value : Sextet) :
    value? byte = some value ↔ symbolByte value = byte := by
  constructor
  · intro read
    exact byte_of_value_unique (value_symbol value) read
  · rintro rfl
    exact value_symbol value

theorem is_symbol_iff (byte : UInt8) : IsSymbol byte ↔ ∃ value, symbolByte value = byte := by
  constructor
  · intro isSymbol
    obtain ⟨value, read⟩ := value_of_is_symbol isSymbol
    exact ⟨value, (value_eq_some_iff byte value).mp read⟩
  · rintro ⟨value, rfl⟩
    revert value
    decide

theorem symbol_byte_inj (value other : Sextet) :
    symbolByte value = symbolByte other ↔ value = other := by
  constructor
  · intro same
    have read := (value_eq_some_iff (symbolByte other) value).mpr same
    rw [(value_eq_some_iff (symbolByte other) other).mpr rfl] at read
    exact (Option.some.inj read).symm
  · rintro rfl
    rfl

theorem encode_symbols (bytes : List UInt8) :
    ∀ byte ∈ Text.bytes (encode bytes), IsSymbol byte := by
  intro byte member
  rw [encode_bytes] at member
  rcases List.mem_map.mp member with ⟨value, _, rfl⟩
  exact (is_symbol_iff _).mpr ⟨value, rfl⟩

theorem values_from_sound (offset : Nat) (text : List UInt8) (values : List Sextet)
    (read : valuesFrom offset text = .ok values) : text = values.map symbolByte := by
  induction text generalizing offset values with
  | nil =>
      obtain rfl := Except.ok.inj read
      rfl
  | cons byte rest ih =>
      rw [valuesFrom] at read
      cases found : value? byte with
      | none =>
          rw [found] at read
          contradiction
      | some value =>
          cases tail : valuesFrom (offset + 1) rest with
          | error error =>
              rw [found, tail] at read
              contradiction
          | ok others =>
              rw [found, tail] at read
              obtain rfl := Except.ok.inj read
              rw [List.map_cons, (value_eq_some_iff byte value).mp found, ← ih _ _ tail]

theorem bytes_of_length (values : List Sextet) :
    (bytesOf values).length = 3 * values.length / 4 := by
  fun_induction bytesOf values with
  | case1 => rfl
  | case2 => simp
  | case3 => simp
  | case4 => simp
  | case5 first second third fourth rest ih =>
      simp only [List.length_cons, ih]
      omega

theorem encoded_length_of_bytes (values : List Sextet) (complete : values.length % 4 ≠ 1) :
    encodedLength (bytesOf values).length = values.length := by
  rw [bytes_of_length, encodedLength]
  split <;> omega

/-- The values stand for the bytes, spare bits and all. -/
structure Spells (values : List Sextet) (bytes : List UInt8) : Prop where
  length : values.length = encodedLength bytes.length
  bytes_of : bytesOf values = bytes

theorem Spells.complete {values : List Sextet} {bytes : List UInt8} (spells : Spells values bytes) :
    values.length % 4 ≠ 1 := by
  rw [spells.length]
  exact encoded_length_mod_four bytes.length

theorem Spells.length_of_vector {size : Nat} {values : List Sextet} {bytes : Vector UInt8 size}
    (spells : Spells values bytes.toList) : values.length = encodedLength size := by
  rw [spells.length, Vector.length_toList]

theorem vector_spelled {size : Nat} (values : List Sextet)
    (sized : values.length = encodedLength size) :
    ∃ bytes : Vector UInt8 size, Spells values bytes.toList := by
  have length : (bytesOf values).toArray.size = size := by
    rw [List.size_toArray, bytes_of_length, sized, encodedLength]
    split <;> omega
  refine ⟨⟨(bytesOf values).toArray, length⟩, ?_, rfl⟩
  rw [Vector.length_toList]
  exact sized

theorem decode_eq_ok_iff (text bytes : List UInt8) :
    decode text = .ok bytes ↔ ∃ values, Spells values bytes ∧ text = values.map symbolByte := by
  constructor
  · intro read
    rw [decode] at read
    split at read
    · contradiction
    · rename_i complete
      cases found : valuesFrom 0 text with
      | error error =>
          rw [found] at read
          contradiction
      | ok values =>
          rw [found] at read
          obtain rfl := Except.ok.inj read
          have spelled := values_from_sound 0 text values found
          rw [spelled, List.length_map] at complete
          exact ⟨values, ⟨(encoded_length_of_bytes values complete).symm, rfl⟩, spelled⟩
  · rintro ⟨values, spells, rfl⟩
    have complete : (values.map symbolByte).length % 4 ≠ 1 := by
      rw [List.length_map]
      exact spells.complete
    have read : valuesFrom 0 (values.map symbolByte) = .ok values := values_from_symbols 0 values
    rw [decode, if_neg complete, read, ← spells.bytes_of]
    rfl

theorem ReadsSize.reads_iff_spells {ε α : Type} {read : List UInt8 → Except ε α}
    {bytes : α → List UInt8} {words : Wording ε} {size : Nat}
    (reads : ReadsSize read bytes words size) (text : List UInt8) (value : α) :
    read text = .ok value ↔
      ∃ values, Spells values (bytes value) ∧ text = values.map symbolByte := by
  rw [reads.reads_iff, decode_eq_ok_iff]

theorem symbols_of_decode {text bytes : List UInt8} (read : decode text = .ok bytes) :
    text.length % 4 ≠ 1 ∧ ∀ byte ∈ text, IsSymbol byte := by
  rcases (decode_eq_ok_iff text bytes).mp read with ⟨values, spells, rfl⟩
  constructor
  · rw [List.length_map]
    exact spells.complete
  · intro byte member
    rcases List.mem_map.mp member with ⟨value, _, rfl⟩
    exact (is_symbol_iff _).mpr ⟨value, rfl⟩

theorem values_of_symbols (text : List UInt8) (symbols : ∀ byte ∈ text, IsSymbol byte) :
    ∃ values : List Sextet, text = values.map symbolByte := by
  induction text with
  | nil => exact ⟨[], rfl⟩
  | cons byte rest ih =>
      obtain ⟨value, first⟩ := (is_symbol_iff byte).mp (symbols byte (by simp))
      obtain ⟨values, others⟩ := ih fun other member => symbols other (by simp [member])
      exact ⟨value :: values, by rw [List.map_cons, first, others]⟩

def clearLow (bits : Nat) (value : Sextet) : Sextet :=
  ⟨value.val / 2 ^ bits * 2 ^ bits, Nat.lt_of_le_of_lt (Nat.div_mul_le_self _ _) value.isLt⟩

/-- How many bits of the last value belong to no byte. -/
def spareBits (length : Nat) : Nat := 6 * length % 8

def clearSpare (values : List Sextet) : List Sextet :=
  values.modify (values.length - 1) (clearLow (spareBits values.length))

theorem clear_low_zero (value : Sextet) : clearLow 0 value = value := by
  simp [clearLow]

theorem clear_low_eq_iff (bits : Nat) (value other : Sextet) :
    clearLow bits value = clearLow bits other ↔ value.val / 2 ^ bits = other.val / 2 ^ bits := by
  have positive : 2 ^ bits ≠ 0 := Nat.ne_of_gt (Nat.two_pow_pos bits)
  rw [clearLow, clearLow, Fin.mk.injEq, Nat.mul_left_inj positive]

theorem clear_low_eq_self_iff (bits : Nat) (value : Sextet) :
    clearLow bits value = value ↔ value.val % 2 ^ bits = 0 := by
  have parts := Nat.div_add_mod' value.val (2 ^ bits)
  simp only [clearLow, Fin.ext_iff]
  omega

theorem clear_spare_group (first second third fourth : Sextet) (rest : List Sextet) :
    clearSpare (first :: second :: third :: fourth :: rest) =
      first :: second :: third :: fourth :: clearSpare rest := by
  have spare : spareBits (rest.length + 4) = spareBits rest.length := by
    simp only [spareBits]
    omega
  cases rest with
  | nil => simp [clearSpare, spareBits, clear_low_zero]
  | cons value rest =>
      rw [List.length_cons] at spare
      simp [clearSpare, spare]

theorem first_sextet_bytes (first second : Sextet) :
    firstSextet (firstByte first second) = first := by
  have bound : first.val * 4 + second.val / 16 < 256 := by omega
  simp [firstSextet, firstByte, Fin.ext_iff, Nat.mod_eq_of_lt bound]
  omega

theorem second_sextet_bytes (first second third : Sextet) :
    secondSextet (firstByte first second) (secondByte second third) = second := by
  simp [secondSextet, firstByte, secondByte, Fin.ext_iff]
  omega

theorem third_sextet_bytes (second third fourth : Sextet) :
    thirdSextet (secondByte second third) (thirdByte third fourth) = third := by
  simp [thirdSextet, secondByte, thirdByte, Fin.ext_iff]
  omega

theorem fourth_sextet_byte (third fourth : Sextet) :
    fourthSextet (thirdByte third fourth) = fourth := by
  simp [fourthSextet, thirdByte, Fin.ext_iff]

/-- Of two values that stand for one byte, the second has four bits to spare. -/
theorem second_sextet_last (first second : Sextet) :
    secondSextet (firstByte first second) 0 = clearLow 4 second := by
  simp [secondSextet, firstByte, clearLow, Fin.ext_iff]
  omega

theorem third_sextet_last (second third : Sextet) :
    thirdSextet (secondByte second third) 0 = clearLow 2 third := by
  simp [thirdSextet, secondByte, clearLow, Fin.ext_iff]
  omega

theorem sextets_of_bytes (values : List Sextet) (complete : values.length % 4 ≠ 1) :
    sextets (bytesOf values) = clearSpare values := by
  fun_induction bytesOf values with
  | case1 => rfl
  | case2 value => exact absurd rfl complete
  | case3 first second =>
      simp [sextets, first_sextet_bytes, second_sextet_last, clearSpare, spareBits]
  | case4 first second third =>
      simp [sextets, first_sextet_bytes, second_sextet_bytes, third_sextet_last, clearSpare,
        spareBits]
  | case5 first second third fourth rest ih =>
      have smaller : rest.length % 4 ≠ 1 := by
        simp only [List.length_cons] at complete
        omega
      simp only [sextets, first_sextet_bytes, second_sextet_bytes, third_sextet_bytes,
        fourth_sextet_byte, ih smaller, clear_spare_group]

theorem Spells.sextets_eq {values : List Sextet} {bytes : List UInt8}
    (spells : Spells values bytes) : sextets bytes = clearSpare values := by
  rw [← spells.bytes_of, sextets_of_bytes values spells.complete]

theorem Spells.last_cleared {values : List Sextet} {bytes : List UInt8}
    (spells : Spells values bytes) {place : Nat} (last : values.length = place + 1) :
    ∃ value, values[place]? = some value ∧
      sextets bytes = values.set place (clearLow (spareBits (place + 1)) value) := by
  have inside : place < values.length := by omega
  have found := List.getElem?_eq_getElem inside
  refine ⟨values[place], found, ?_⟩
  rw [spells.sextets_eq, clearSpare, last, Nat.add_sub_cancel, List.modify_eq_set, found,
    Option.getD_some]

end Radix64

end Bcrypt
