import Bcrypt.Digest
import Bcrypt.Salt

/-!
# Radix-64 there and back

Reading a written text gives the bytes that were written, for sequences of every length,
the two lengths of a partial last group included. Salts and digests inherit this
together with the lengths of their encodings.
-/

set_option autoImplicit false

namespace Bcrypt

namespace Radix64

theorem symbol_ascii (value : Sextet) : (symbol value).toNat < 128 := by
  revert value
  decide

theorem encode_to_list (bytes : List UInt8) :
    (encode bytes).toList = (sextets bytes).map symbol := by
  rw [encode, String.toList_ofList]

theorem encode_bytes (bytes : List UInt8) :
    Text.bytes (encode bytes) = (sextets bytes).map fun value => (symbol value).toUInt8 := by
  have ascii : ∀ character ∈ (sextets bytes).map symbol, character.toNat < 128 := by
    intro character member
    obtain ⟨value, _, rfl⟩ := List.mem_map.mp member
    exact symbol_ascii value
  rw [Text.bytes, encode_to_list, Text.utf8_of_ascii _ ascii, List.map_map]
  rfl

theorem sextets_length (bytes : List UInt8) :
    (sextets bytes).length = encodedLength bytes.length := by
  fun_induction sextets bytes with
  | case1 => rfl
  | case2 first => simp [encodedLength]
  | case3 first second => simp [encodedLength]
  | case4 first second third rest ih =>
      simp only [List.length_cons, ih, encodedLength]
      have groups : (rest.length + 1 + 1 + 1) / 3 = rest.length / 3 + 1 := by omega
      have rem : (rest.length + 1 + 1 + 1) % 3 = rest.length % 3 := by omega
      rw [groups, rem]
      omega

theorem encode_character_count (bytes : List UInt8) :
    (encode bytes).length = encodedLength bytes.length := by
  rw [← String.length_toList, encode_to_list, List.length_map, sextets_length]

theorem encode_vector_count {size : Nat} (bytes : Vector UInt8 size) :
    (encode bytes.toList).length = encodedLength size := by
  rw [encode_character_count, Vector.length_toList]

theorem encode_bytes_length (bytes : List UInt8) :
    (Text.bytes (encode bytes)).length = encodedLength bytes.length := by
  rw [encode_bytes, List.length_map, sextets_length]

theorem encoded_length_mod_four (size : Nat) : encodedLength size % 4 ≠ 1 := by
  rw [encodedLength]
  split <;> omega

theorem values_from_symbols (offset : Nat) (values : List Sextet) :
    valuesFrom offset (values.map fun value => (symbol value).toUInt8) = .ok values := by
  induction values generalizing offset with
  | nil => rfl
  | cons value values ih =>
      simp only [List.map_cons, valuesFrom, value_symbol, ih]
      rfl

theorem first_byte_sextets (first second : UInt8) :
    firstByte (firstSextet first) (secondSextet first second) = first := by
  apply UInt8.toNat_inj.mp
  have firstBound := first.toNat_lt
  have secondBound := second.toNat_lt
  simp [firstByte, firstSextet, secondSextet]
  omega

theorem second_byte_sextets (first second third : UInt8) :
    secondByte (secondSextet first second) (thirdSextet second third) = second := by
  apply UInt8.toNat_inj.mp
  have secondBound := second.toNat_lt
  have thirdBound := third.toNat_lt
  simp [secondByte, secondSextet, thirdSextet]
  omega

theorem third_byte_sextets (second third : UInt8) :
    thirdByte (thirdSextet second third) (fourthSextet third) = third := by
  apply UInt8.toNat_inj.mp
  have thirdBound := third.toNat_lt
  simp [thirdByte, thirdSextet, fourthSextet]
  omega

theorem bytes_of_sextets (bytes : List UInt8) : bytesOf (sextets bytes) = bytes := by
  fun_induction sextets bytes with
  | case1 => rfl
  | case2 first => simp [bytesOf, first_byte_sextets]
  | case3 first second => simp [bytesOf, first_byte_sextets, second_byte_sextets]
  | case4 first second third rest ih =>
      simp [bytesOf, first_byte_sextets, second_byte_sextets, third_byte_sextets, ih]

theorem decode_encoded (bytes : List UInt8) : decode (Text.bytes (encode bytes)) = .ok bytes := by
  have length := encoded_length_mod_four bytes.length
  rw [← encode_bytes_length] at length
  rw [decode, if_neg length, encode_bytes, values_from_symbols]
  exact congrArg Except.ok (bytes_of_sextets bytes)

theorem encode_bytes_inj (bytes other : List UInt8) :
    Text.bytes (encode bytes) = Text.bytes (encode other) ↔ bytes = other := by
  constructor
  · intro same
    have read := decode_encoded bytes
    rw [same, decode_encoded] at read
    exact (Except.ok.inj read).symm
  · rintro rfl
    rfl

theorem encode_vector_length {size : Nat} (bytes : Vector UInt8 size) :
    (Text.bytes (encode bytes.toList)).length = encodedLength size := by
  rw [encode_bytes_length, Vector.length_toList]

theorem of_size_eq_some_iff {size : Nat} (bytes : List UInt8) (sized : Vector UInt8 size) :
    ofSize? size bytes = some sized ↔ bytes = sized.toList := by
  constructor
  · intro built
    rw [ofSize?] at built
    split at built
    · obtain rfl := Option.some.inj built
      rfl
    · contradiction
  · rintro rfl
    rw [ofSize?, dif_pos Vector.length_toList]
    rfl

theorem of_size_eq_none_iff (size : Nat) (bytes : List UInt8) :
    ofSize? size bytes = none ↔ bytes.length ≠ size := by
  rw [ofSize?]
  split <;> simp_all

/-- The reader accepts the texts that decode to the bytes of a value. It refuses what
does not decode and what decodes to another number of bytes, each in its words, and
nothing else. -/
structure ReadsSize {ε α : Type} (read : List UInt8 → Except ε α) (bytes : α → List UInt8)
    (words : Wording ε) (size : Nat) : Prop where
  reads_iff : ∀ text value, read text = .ok value ↔ decode text = .ok (bytes value)
  refuses_iff : ∀ text error, read text = .error error ↔
    (∃ cause, decode text = .error cause ∧ error = words.undecoded cause) ∨
      ∃ decoded, decode text = .ok decoded ∧ decoded.length ≠ size ∧
        error = words.missized decoded.length

section

variable {ε α : Type} {size : Nat}

theorem decode_sized_ok_iff (words : Wording ε) (text : List UInt8) (sized : Vector UInt8 size) :
    decodeSized words size text = .ok sized ↔ decode text = .ok sized.toList := by
  rw [decodeSized]
  cases decode text with
  | error cause => simp
  | ok bytes =>
      rw [Except.ok.injEq, ← of_size_eq_some_iff]
      cases built : ofSize? size bytes <;> simp [built]

theorem decode_sized_error_iff (words : Wording ε) (text : List UInt8) (error : ε) :
    decodeSized words size text = .error error ↔
      (∃ cause, decode text = .error cause ∧ error = words.undecoded cause) ∨
        ∃ decoded, decode text = .ok decoded ∧ decoded.length ≠ size ∧
          error = words.missized decoded.length := by
  rw [decodeSized]
  cases decode text with
  | error cause => simp [eq_comm (a := error)]
  | ok bytes =>
      simp only [Except.ok.injEq, reduceCtorEq, false_and, exists_false, false_or, exists_eq_left',
        ← of_size_eq_none_iff]
      cases ofSize? size bytes <;> simp [eq_comm (a := error)]

theorem decode_sized_reads (words : Wording ε) (build : Vector UInt8 size → α)
    (view : α → Vector UInt8 size) (viewed : ∀ bytes, view (build bytes) = bytes)
    (built : ∀ value, build (view value) = value) :
    ReadsSize (fun text => (decodeSized words size text).map build)
      (fun value => (view value).toList) words size := by
  constructor
  · intro text value
    rw [← decode_sized_ok_iff words]
    cases decodeSized words size text with
    | error => simp [Except.map]
    | ok bytes =>
        simp only [Except.map, Except.ok.injEq]
        constructor
        · rintro rfl
          exact (viewed bytes).symm
        · rintro rfl
          exact built value
  · intro text error
    rw [← decode_sized_error_iff]
    cases decodeSized words size text <;> simp [Except.map]

theorem ReadsSize.reads_encoded {read : List UInt8 → Except ε α} {bytes : α → List UInt8}
    {words : Wording ε} (reads : ReadsSize read bytes words size) (value : α) :
    read (Text.bytes (encode (bytes value))) = .ok value :=
  (reads.reads_iff _ value).mpr (decode_encoded _)

end

end Radix64

theorem Salt.reads_size : Radix64.ReadsSize decode (fun salt => salt.bytes.toList) wording 16 :=
  Radix64.decode_sized_reads wording mk bytes (fun _ => rfl) fun _ => rfl

theorem Digest.reads_size :
    Radix64.ReadsSize decode (fun digest => digest.bytes.toList) wording 23 :=
  Radix64.decode_sized_reads wording mk bytes (fun _ => rfl) fun _ => rfl

theorem Salt.decode_encoded (salt : Salt) : decode (Text.bytes salt.encode) = .ok salt :=
  reads_size.reads_encoded salt

theorem Digest.decode_encoded (digest : Digest) :
    decode (Text.bytes digest.encode) = .ok digest :=
  reads_size.reads_encoded digest

theorem Salt.encode_length (salt : Salt) : (Text.bytes salt.encode).length = encodedLength :=
  Radix64.encode_vector_length salt.bytes

theorem Digest.encode_length (digest : Digest) :
    (Text.bytes digest.encode).length = encodedLength :=
  Radix64.encode_vector_length digest.bytes

end Bcrypt
