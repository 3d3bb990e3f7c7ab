import Bcrypt.Proofs.Radix64.Reading

/-!
# What does not read as radix-64

A text is refused for its length before any of its bytes is looked at, and then for the
first of its bytes that is no symbol. Every other text reads, as the number of bytes
that its length tells.
-/

set_option autoImplicit false

namespace Bcrypt

namespace Radix64

structure FirstForeign (text : List UInt8) (offset : Nat) (byte : UInt8) : Prop where
  found : text[offset]? = some byte
  foreign : ¬IsSymbol byte
  before : ∀ other ∈ text.take offset, IsSymbol other

theorem FirstForeign.not_all_symbols {text : List UInt8} {offset : Nat} {byte : UInt8}
    (first : FirstForeign text offset byte) : ¬∀ other ∈ text, IsSymbol other := by
  intro symbols
  exact first.foreign (symbols byte (List.mem_of_getElem? first.found))

theorem value_eq_none_iff (byte : UInt8) : value? byte = none ↔ ¬IsSymbol byte := by
  constructor
  · intro unread isSymbol
    rcases value_of_is_symbol isSymbol with ⟨value, read⟩
    rw [unread] at read
    contradiction
  · intro foreign
    rw [Option.eq_none_iff_forall_ne_some]
    intro value read
    exact foreign ((is_symbol_iff byte).mpr ⟨value, (value_eq_some_iff byte value).mp read⟩)

theorem FirstForeign.unique {text : List UInt8} {offset other : Nat} {byte otherByte : UInt8}
    (first : FirstForeign text offset byte) (otherFirst : FirstForeign text other otherByte) :
    offset = other ∧ byte = otherByte := by
  have notAfter {early late : Nat} {earlyByte lateByte : UInt8}
      (atEarly : FirstForeign text early earlyByte)
      (atLate : FirstForeign text late lateByte) : ¬early < late := by
    intro earlier
    apply atEarly.foreign
    apply atLate.before
    apply List.mem_of_getElem? (i := early)
    rw [List.getElem?_take_of_lt earlier, atEarly.found]
  have same : offset = other := by
    have notLate := notAfter first otherFirst
    have notEarly := notAfter otherFirst first
    omega
  refine ⟨same, ?_⟩
  have found := first.found
  rw [same, otherFirst.found] at found
  exact (Option.some.inj found).symm

/-- At the front of a text stands the first foreign byte, or a symbol that only moves it by one. -/
theorem first_foreign_cons_iff (front : UInt8) (rest : List UInt8) (offset : Nat) (byte : UInt8) :
    FirstForeign (front :: rest) offset byte ↔
      (¬IsSymbol front ∧ offset = 0 ∧ byte = front) ∨
        (IsSymbol front ∧ ∃ next, offset = next + 1 ∧ FirstForeign rest next byte) := by
  constructor
  · intro first
    cases offset with
    | zero =>
        obtain rfl : front = byte := Option.some.inj first.found
        exact .inl ⟨first.foreign, rfl, rfl⟩
    | succ next =>
        have before := first.before
        rw [List.take_succ_cons] at before
        refine .inr ⟨before front List.mem_cons_self, next, rfl, first.found, first.foreign, ?_⟩
        intro other member
        exact before other (List.mem_cons_of_mem _ member)
  · rintro (⟨foreign, rfl, rfl⟩ | ⟨isSymbol, next, rfl, first⟩)
    · exact ⟨rfl, foreign, fun other member => absurd member List.not_mem_nil⟩
    · refine ⟨first.found, first.foreign, ?_⟩
      rw [List.take_succ_cons]
      intro other member
      rcases List.mem_cons.mp member with rfl | inRest
      · exact isSymbol
      · exact first.before other inRest

theorem values_from_error_iff (start : Nat) (text : List UInt8) (error : DecodeError) :
    valuesFrom start text = .error error ↔
      ∃ offset byte,
        FirstForeign text offset byte ∧ error = .invalidByte (start + offset) byte := by
  induction text generalizing start with
  | nil =>
      apply iff_of_false
      · rintro ⟨⟩
      · rintro ⟨offset, byte, first, _⟩
        exact absurd first.found (by simp)
  | cons front rest ih =>
      simp only [valuesFrom, first_foreign_cons_iff]
      cases read : value? front with
      | none =>
          have foreign := (value_eq_none_iff front).mp read
          simp only [Except.error.injEq, foreign, not_false_eq_true, true_and, false_and, or_false]
          constructor
          · rintro rfl
            exact ⟨0, front, ⟨rfl, rfl⟩, rfl⟩
          · rintro ⟨_, _, ⟨rfl, rfl⟩, rfl⟩
            rfl
      | some value =>
          have isSymbol :=
            (is_symbol_iff front).mpr ⟨value, (value_eq_some_iff front value).mp read⟩
          have passed : (valuesFrom (start + 1) rest).map (value :: ·) = .error error ↔
              valuesFrom (start + 1) rest = .error error := by
            cases valuesFrom (start + 1) rest <;> simp [Except.map]
          simp only [passed, ih, isSymbol, not_true_eq_false, true_and, false_and, false_or]
          constructor
          · rintro ⟨next, byte, first, rfl⟩
            exact ⟨next + 1, byte, ⟨next, rfl, first⟩, by rw [Nat.add_assoc, Nat.add_comm 1]⟩
          · rintro ⟨_, byte, ⟨next, rfl, first⟩, rfl⟩
            exact ⟨next, byte, first, by rw [Nat.add_assoc, Nat.add_comm 1]⟩

theorem symbols_of_all {text : List UInt8}
    (all : text.all (fun byte => decide (IsSymbol byte)) = true) :
    ∀ byte ∈ text, IsSymbol byte := by
  intro byte member
  exact of_decide_eq_true (List.all_eq_true.mp all byte member)

theorem decode_of_length {text : List UInt8} (incomplete : text.length % 4 = 1) :
    decode text = .error (.invalidLength text.length) := by
  rw [decode, if_pos incomplete]

theorem decode_of_symbols {text : List UInt8} (complete : text.length % 4 ≠ 1)
    (symbols : ∀ byte ∈ text, IsSymbol byte) : ∃ bytes, decode text = .ok bytes := by
  rcases values_of_symbols text symbols with ⟨values, rfl⟩
  rw [List.length_map] at complete
  refine ⟨bytesOf values, (decode_eq_ok_iff _ _).mpr ⟨values, ⟨?_, rfl⟩, rfl⟩⟩
  exact (encoded_length_of_bytes values complete).symm

theorem decoded_length_eq_some {length : Nat} (complete : length % 4 ≠ 1) :
    decodedLength? length = some (3 * length / 4) := by
  rw [decodedLength?]
  split
  · exact congrArg some (by omega)
  · contradiction
  · rename_i notWhole _
    have partialGroup : length % 4 ≠ 0 := notWhole
    exact congrArg some (by omega)

theorem decoded_length_eq_some_iff (length size : Nat) :
    decodedLength? length = some size ↔ encodedLength size = length := by
  constructor
  · intro decoded
    by_cases incomplete : length % 4 = 1
    · rw [decodedLength?, incomplete] at decoded
      contradiction
    · rw [decoded_length_eq_some incomplete] at decoded
      obtain rfl := Option.some.inj decoded
      rw [encodedLength]
      split <;> omega
  · rintro rfl
    rw [decoded_length_eq_some (encoded_length_mod_four size), encodedLength]
    split <;> exact congrArg some (by omega)

theorem decoded_length_of_decode {text bytes : List UInt8} (read : decode text = .ok bytes) :
    decodedLength? text.length = some bytes.length := by
  rcases (decode_eq_ok_iff text bytes).mp read with ⟨values, spells, rfl⟩
  rw [← spells.bytes_of, bytes_of_length, List.length_map, decoded_length_eq_some spells.complete]

/-- An error is one of two: the length of the whole text, found whatever its bytes are,
or else the first byte that is no symbol. -/
theorem decode_eq_error_iff (text : List UInt8) (error : DecodeError) :
    decode text = .error error ↔
      (text.length % 4 = 1 ∧ error = .invalidLength text.length) ∨
        (text.length % 4 ≠ 1 ∧ ∃ offset byte, FirstForeign text offset byte ∧
          error = .invalidByte offset byte) := by
  by_cases incomplete : text.length % 4 = 1
  · rw [decode_of_length incomplete, Except.error.injEq]
    simp only [incomplete, true_and, ne_eq, not_true_eq_false, false_and, or_false]
    exact eq_comm
  · have failed : decode text = .error error ↔ valuesFrom 0 text = .error error := by
      rw [decode, if_neg incomplete]
      cases valuesFrom 0 text <;> simp [Except.map]
    rw [failed, values_from_error_iff]
    simp only [incomplete, false_and, false_or, ne_eq, not_false_eq_true, true_and, Nat.zero_add]

section

variable {ε α : Type} {read : List UInt8 → Except ε α} {bytes : α → List UInt8}
  {words : Wording ε} {size : Nat} (reads : ReadsSize read bytes words size) {text : List UInt8}

include reads

theorem ReadsSize.symbols_of_read {value : α} (accepted : read text = .ok value) :
    ∀ byte ∈ text, IsSymbol byte :=
  (symbols_of_decode ((reads.reads_iff text value).mp accepted)).2

theorem ReadsSize.refused_of_sized {error : ε} (sized : text.length = encodedLength size)
    (refused : read text = .error error) :
    ∃ offset byte, FirstForeign text offset byte ∧
      error = words.undecoded (.invalidByte offset byte) := by
  rcases (reads.refuses_iff text error).mp refused with
    ⟨cause, failed, rfl⟩ | ⟨decoded, found, unsized, _⟩
  · rcases (decode_eq_error_iff text cause).mp failed with
      ⟨incomplete, _⟩ | ⟨_, offset, byte, first, rfl⟩
    · rw [sized] at incomplete
      exact absurd incomplete (encoded_length_mod_four size)
    · exact ⟨offset, byte, first, rfl⟩
  · have length := decoded_length_of_decode found
    rw [sized, (decoded_length_eq_some_iff _ size).mpr rfl] at length
    exact absurd (Option.some.inj length).symm unsized

end

/-- A text of a length that no encoding has is refused for it, whatever its bytes are.
Any other text is refused for the first byte that is no symbol, and reads if there is
none, as the number of bytes that goes with its length. -/
theorem every_text_is_answered (text : List UInt8) :
    (text.length % 4 = 1 → decode text = .error (.invalidLength text.length)) ∧
    (text.length % 4 ≠ 1 → (∃ byte ∈ text, ¬IsSymbol byte) →
      ∃ offset byte,
        FirstForeign text offset byte ∧ decode text = .error (.invalidByte offset byte)) ∧
    (text.length % 4 ≠ 1 → (∀ byte ∈ text, IsSymbol byte) →
      ∃ bytes, decode text = .ok bytes ∧ decodedLength? text.length = some bytes.length) ∧
    ((∃ bytes, decode text = .ok bytes) ↔ text.length % 4 ≠ 1 ∧ ∀ byte ∈ text, IsSymbol byte) := by
  refine ⟨decode_of_length, ?_, ?_, ?_⟩
  · rintro complete ⟨byte, member, foreign⟩
    cases read : decode text with
    | ok bytes => exact absurd ((symbols_of_decode read).2 byte member) foreign
    | error error =>
        rcases (decode_eq_error_iff text error).mp read with
          ⟨incomplete, _⟩ | ⟨_, offset, other, first, rfl⟩
        · exact absurd incomplete complete
        · exact ⟨offset, other, first, rfl⟩
  · intro complete symbols
    rcases decode_of_symbols complete symbols with ⟨bytes, read⟩
    exact ⟨bytes, read, decoded_length_of_decode read⟩
  · constructor
    · rintro ⟨bytes, read⟩
      exact symbols_of_decode read
    · rintro ⟨complete, symbols⟩
      exact decode_of_symbols complete symbols

/-- Two foreign bytes in different groups, a length that no encoding has with foreign
bytes besides, and symbols alone. -/
theorem every_text_is_answered_two_foreign_bytes :
    let foreign := Text.bytes "abcdef=h+j"
    let longer := foreign ++ [0x6b, 0x80, 0x2e]
    let symbols := Text.bytes "./AZaz09ab"
    (foreign.length % 4 ≠ 1 ∧ '+'.toUInt8 ∈ foreign ∧ ¬IsSymbol '+'.toUInt8 ∧
      ∃ offset byte,
        FirstForeign foreign offset byte ∧ decode foreign = .error (.invalidByte offset byte) ∧
        offset = 6 ∧ byte = '='.toUInt8) ∧
    (longer.length % 4 = 1 ∧ decode longer = .error (.invalidLength 13)) ∧
    (symbols.length % 4 ≠ 1 ∧ (∀ byte ∈ symbols, IsSymbol byte) ∧ 'z'.toUInt8 ∈ symbols ∧
      ∃ bytes, decode symbols = .ok bytes ∧ decodedLength? 10 = some bytes.length) := by
  intro foreign longer symbols
  have plusSign : '+'.toUInt8 ∈ foreign := by decide
  have first : FirstForeign foreign 6 '='.toUInt8 :=
    ⟨by decide, by decide, symbols_of_all (by decide)⟩
  have allSymbols : ∀ byte ∈ symbols, IsSymbol byte := symbols_of_all (by decide)
  rcases every_text_is_answered foreign with ⟨_, refused, _⟩
  rcases every_text_is_answered longer with ⟨tooLong, _⟩
  rcases every_text_is_answered symbols with ⟨_, _, reads, _⟩
  rcases refused (by decide) ⟨_, plusSign, by decide⟩ with ⟨offset, byte, found, answer⟩
  have same := found.unique first
  exact ⟨⟨by decide, plusSign, by decide, offset, byte, found, answer, same⟩,
    ⟨by decide, tooLong (by decide)⟩, by decide, allSymbols, by decide,
    reads (by decide) allSymbols⟩

end Radix64

end Bcrypt
