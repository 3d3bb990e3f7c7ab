import Bcrypt.Proofs.ByteStream
import Bcrypt.Proofs.Machine.Checked
import Bcrypt.Proofs.Radix64.Refusal

/-!
# Radix-64 on a machine

Bytes are packed into a word and taken out of it again by shifts, one group of symbols
at a time, and symbols are looked up in tables. No shift, no table and no count goes too
far: a machine writes and reads what radix-64 says.
-/

set_option autoImplicit false

namespace Bcrypt.Machine

open Radix64 (Sextet)

def encodedLength (size : Nat) : Checked Nat := do
  let groups ← multiply (size / 3) 4
  add groups (← if size % 3 = 0 then pure 0 else add (size % 3) 1)

def decodedLength? (length : Nat) : Checked (Option Nat) :=
  match length % 4 with
  | 1 => pure none
  | 0 => do return some (← multiply (length / 4) 3)
  | rest => do return some (← subtract (← add (← multiply (length / 4) 3) rest) 1)

/-- How many symbols a number of bytes takes, counted in words of the given many values. -/
def symbolCount (values size : Nat) : Checked Nat := do
  let groups ← bounded values (size / 3 * 4)
  bounded values (groups + (← if size % 3 = 0 then pure 0 else bounded values (size % 3 + 1)))

def byteCount? (values length : Nat) : Checked (Option Nat) :=
  match length % 4 with
  | 1 => pure none
  | 0 => do return some (← bounded values (length / 4 * 3))
  | rest => do
      let groups ← bounded values (length / 4 * 3)
      return some (← subtract (← bounded values (groups + rest)) 1)

theorem encoded_length_in_words (size : Nat) : encodedLength size = symbolCount USize.size size :=
  rfl

theorem decoded_length_in_words (length : Nat) :
    decodedLength? length = byteCount? USize.size length :=
  rfl

/-- The check of the whole is the only one that counts: what is checked before it is
never greater. -/
theorem symbol_count_eq {values : Nat} (wide : 4 ≤ values) (size : Nat) :
    symbolCount values size = bounded values (Radix64.encodedLength size) := by
  rw [symbolCount, Radix64.encodedLength]
  by_cases groupsFit : size / 3 * 4 < values
  · rw [bounded_ok groupsFit, ok_bind]
    by_cases whole : size % 3 = 0
    · rw [if_pos whole, if_pos whole]
      rfl
    · have othersFit : size % 3 + 1 < values := by omega
      rw [if_neg whole, if_neg whole, bounded_ok othersFit, ok_bind]
  · have groupsLarge : values ≤ size / 3 * 4 := Nat.not_lt.mp groupsFit
    rw [bounded_overflow groupsLarge, bounded_overflow (Nat.le_add_right_of_le groupsLarge)]
    rfl

theorem byte_count_eq {values length : Nat} (counted : length < values) :
    byteCount? values length = .ok (Radix64.decodedLength? length) := by
  rw [byteCount?, Radix64.decodedLength?, bounded_ok (by omega)]
  split
  · rename_i one
    rw [one]
    rfl
  · rename_i zero
    rw [zero]
    rfl
  · rename_i notOne notZero
    have nonzero : length % 4 ≠ 0 := notZero
    rw [ok_bind, bounded_ok (by omega), ok_bind, subtract_ok (by omega), ok_bind]
    split
    · contradiction
    · contradiction
    · rfl

theorem encoded_length_runs {size : Nat} (stored : size < USize.size / 2) :
    encodedLength size = .ok (Radix64.encodedLength size) := by
  have limit := USize.le_size
  have fits : Radix64.encodedLength size < USize.size := by
    rw [Radix64.encodedLength]
    split <;> omega
  rw [encoded_length_in_words, symbol_count_eq (by omega), bounded_ok fits]

theorem decoded_length_runs {length : Nat} (counted : length < USize.size) :
    decodedLength? length = .ok (Radix64.decodedLength? length) := by
  rw [decoded_length_in_words, byte_count_eq counted]

def symbol (word : UInt32) : Checked Char := read Radix64.alphabet.toList (word &&& 63).toNat

def pack (chunk : List UInt8) : Checked UInt32 := do
  let first := (← read chunk 0).toUInt32
  let second := (chunk[1]?.getD 0).toUInt32
  let third := (chunk[2]?.getD 0).toUInt32
  return (← shiftLeft first 16) ||| (← shiftLeft second 8) ||| third

def symbolBehind (word : UInt32) (amount : Nat) : Checked Char := do
  symbol (← shiftRight word amount)

def onlyIf (wanted : Bool) (character : Checked Char) : Checked (List Char) :=
  if wanted then List.singleton <$> character else pure []

def encodeGroup (chunk : List UInt8) : Checked (List Char) := do
  let packed ← pack chunk
  let first ← symbolBehind packed 18
  let second ← symbolBehind packed 12
  let third ← onlyIf (1 < chunk.length) (symbolBehind packed 6)
  let fourth ← onlyIf (2 < chunk.length) (symbol packed)
  return [first, second] ++ third ++ fourth

def encodeGroups : List (List UInt8) → Checked (List Char)
  | [] => pure []
  | chunk :: rest => do return (← encodeGroup chunk) ++ (← encodeGroups rest)

def encode (bytes : List UInt8) : Checked String := do
  let _ ← encodedLength bytes.length
  return String.ofList (← encodeGroups (chunks 3 bytes))

theorem symbol_runs (word : UInt32) (value : Sextet) (low : word.toNat % 64 = value.val) :
    symbol word = .ok (Radix64.symbol value) := by
  have masked : (word &&& 63).toNat = value.val := by
    rw [← low, UInt32.toNat_and]
    exact Nat.and_two_pow_sub_one_eq_mod word.toNat 6
  rw [symbol, masked]
  exact read_vector Radix64.alphabet value.val value.isLt

theorem symbol_behind_runs (word : UInt32) {amount : Nat} (inside : amount < 32) (value : Sextet)
    (low : word.toNat / 2 ^ amount % 64 = value.val) :
    symbolBehind word amount = .ok (Radix64.symbol value) := by
  rw [symbolBehind, shift_right_ok inside, ok_bind]
  apply symbol_runs
  rw [shifted_right_value word inside, low]

def packed (first second third : UInt8) : UInt32 :=
  first.toUInt32 <<< 16 ||| second.toUInt32 <<< 8 ||| third.toUInt32

theorem pack_runs (first : UInt8) (rest : List UInt8) :
    pack (first :: rest) = .ok (packed first (rest[0]?.getD 0) (rest[1]?.getD 0)) :=
  rfl

section

variable (first second third : UInt8)

theorem packed_value :
    (packed first second third).toNat = 65536 * first.toNat + 256 * second.toNat + third.toNat := by
  have word : packed first second third = Word.ofBytes 0 first second third := by
    simp [packed, Word.ofBytes]
  rw [word, ByteStream.of_bytes_value]
  simp

theorem packed_symbols :
    symbolBehind (packed first second third) 18 = .ok (Radix64.symbol (Radix64.firstSextet first)) ∧
      symbolBehind (packed first second third) 12 =
        .ok (Radix64.symbol (Radix64.secondSextet first second)) ∧
      symbolBehind (packed first second third) 6 =
        .ok (Radix64.symbol (Radix64.thirdSextet second third)) ∧
      symbol (packed first second third) = .ok (Radix64.symbol (Radix64.fourthSextet third)) := by
  have value := packed_value first second third
  have bounds := And.intro first.toNat_lt (And.intro second.toNat_lt third.toNat_lt)
  refine ⟨symbol_behind_runs _ (by omega) _ ?_, symbol_behind_runs _ (by omega) _ ?_,
    symbol_behind_runs _ (by omega) _ ?_, symbol_runs _ _ ?_⟩
  all_goals
    simp only [Radix64.firstSextet, Radix64.secondSextet, Radix64.thirdSextet, Radix64.fourthSextet]
    omega

end

theorem encode_group_runs (first : UInt8) (rest : List UInt8) (short : rest.length ≤ 2) :
    encodeGroup (first :: rest) = .ok ((Radix64.sextets (first :: rest)).map Radix64.symbol) := by
  rw [encodeGroup, pack_runs]
  simp only [ok_bind, packed_symbols]
  match rest with
  | [] => rfl
  | [_] => rfl
  | [_, _] => rfl

theorem encode_groups_run (bytes : List UInt8) :
    encodeGroups (chunks 3 bytes) = .ok ((Radix64.sextets bytes).map Radix64.symbol) := by
  fun_induction Radix64.sextets bytes with
  | case1 =>
      rw [chunks_nil]
      rfl
  | case2 first =>
      rw [chunks_short (by simp) (by simp), encodeGroups, encode_group_runs first [] (by simp)]
      rfl
  | case3 first second =>
      rw [chunks_short (by simp) (by simp), encodeGroups,
        encode_group_runs first [second] (by simp)]
      rfl
  | case4 first second third rest ih =>
      have cut : chunks 3 (first :: second :: third :: rest) =
          [first, second, third] :: chunks 3 rest :=
        chunks_append (show [first, second, third].length = 3 from rfl) (by omega) rest
      rw [cut, encodeGroups, encode_group_runs first [second, third] (by simp), ih]
      rfl

theorem encode_runs {bytes : List UInt8} (stored : bytes.length < USize.size / 2) :
    encode bytes = .ok (Radix64.encode bytes) := by
  rw [encode, encoded_length_runs stored, ok_bind, encode_groups_run]
  rfl

/-- What stands in the table for a byte that is no symbol. -/
def noSymbol : UInt8 := 255

def valueTable : List UInt8 :=
  Radix64.alphabet.toList.zipIdx.foldl
    (fun table (character, value) => table.set character.toNat (UInt8.ofNat value))
    (List.replicate 256 noSymbol)

def takeSymbol (group place : Nat) (word : UInt32) (byte : UInt8) :
    Fallible DecodeError UInt32 := do
  let value ← lift (read valueTable byte.toNat)
  if value = noSymbol then
    let offset ← lift do add (← multiply group 4) place
    answer (.error (.invalidByte offset byte))
  else
    let placed ← lift do shiftLeft value.toUInt32 (← subtract 18 (← multiply 6 place))
    return word ||| placed

def takeSymbols (group : Nat) : (place : Nat) → UInt32 → List UInt8 → Fallible DecodeError UInt32
  | _, word, [] => pure word
  | place, word, byte :: rest => do
      takeSymbols group (place + 1) (← takeSymbol group place word byte) rest

def decodeGroup (group : Nat) (chunk : List UInt8) : Fallible DecodeError (List UInt8) := do
  let word ← takeSymbols group 0 0 chunk
  lift (slice (Word.toBytes word) 1 chunk.length)

def decodeGroups : (group : Nat) → List (List UInt8) → Fallible DecodeError (List UInt8)
  | _, [] => pure []
  | group, chunk :: rest => do
      return (← decodeGroup group chunk) ++ (← decodeGroups (group + 1) rest)

def decode (text : List UInt8) : Fallible DecodeError (List UInt8) := do
  match ← lift (decodedLength? text.length) with
  | none => answer (.error (.invalidLength text.length))
  | some _ => decodeGroups 0 (chunks 4 text)

def tableEntry (byte : UInt8) : UInt8 :=
  (Radix64.value? byte).elim noSymbol fun value => UInt8.ofNat value.val

theorem value_table_entries :
    valueTable = (List.range 256).map fun code => tableEntry (UInt8.ofNat code) := by
  decide +kernel

theorem value_table_runs (byte : UInt8) : read valueTable byte.toNat = .ok (tableEntry byte) := by
  apply read_ok
  rw [value_table_entries, List.getElem?_map, List.getElem?_range byte.toNat_lt, Option.map_some,
    UInt8.ofNat_toNat]

def join (word : UInt32) (place : Nat) (value : Sextet) : UInt32 :=
  word ||| UInt32.ofNat value.val <<< UInt32.ofNat (18 - 6 * place)

def gather (word : UInt32) : (place : Nat) → List Sextet → UInt32
  | _, [] => word
  | place, value :: rest => gather (join word place value) (place + 1) rest

section

variable {group : Nat} (word : UInt32)

theorem take_symbol_runs {place : Nat} (inside : place < 4) (counted : 4 * group + 4 < USize.size)
    (byte : UInt8) :
    takeSymbol group place word byte = answer (match Radix64.value? byte with
      | none => .error (.invalidByte (4 * group + place) byte)
      | some value => .ok (join word place value)) := by
  have limit := USize.le_size
  rw [takeSymbol, value_table_runs, tableEntry]
  cases Radix64.value? byte with
  | none =>
      have offset : group * 4 + place = 4 * group + place := by omega
      simp [multiply_ok (show group * 4 < USize.size by omega),
        add_ok (show group * 4 + place < USize.size by omega), offset]
  | some value =>
      have isSymbol : UInt8.ofNat value.val ≠ noSymbol := by
        revert value
        decide
      have widened : (UInt8.ofNat value.val).toUInt32 = UInt32.ofNat value.val := by
        revert value
        decide
      simp only [Option.elim_some, lift_ok, answer_ok_bind, if_neg isSymbol, widened, ok_bind, join,
        multiply_ok (show 6 * place < USize.size by omega),
        subtract_ok (show 6 * place ≤ 18 by omega),
        shift_left_ok (show 18 - 6 * place < 32 by omega)]
      rfl

theorem take_symbols_run {place : Nat} {chunk : List UInt8} (inside : place + chunk.length ≤ 4)
    (counted : 4 * group + 4 < USize.size) :
    takeSymbols group place word chunk =
      answer ((Radix64.valuesFrom (4 * group + place) chunk).map (gather word place)) := by
  induction chunk generalizing place word with
  | nil => rfl
  | cons byte rest ih =>
      have following : place + 1 + rest.length ≤ 4 := by
        rw [List.length_cons] at inside
        omega
      rw [takeSymbols, take_symbol_runs word (by omega) counted, Radix64.valuesFrom]
      cases Radix64.value? byte with
      | none => rfl
      | some value =>
          rw [answer_ok_bind, ih (join word place value) following, Nat.add_assoc]
          cases Radix64.valuesFrom (4 * group + (place + 1)) rest <;> rfl

end

/-- A place that is free in the word so far takes its value. -/
theorem join_value {word : UInt32} {place high : Nat} (value : Sextet) (inside : place < 4)
    (free : word.toNat = 2 ^ (24 - 6 * place) * high) :
    (join word place value).toNat = 2 ^ (18 - 6 * place) * (64 * high + value.val) := by
  have step : 2 ^ (24 - 6 * place) = 2 ^ (18 - 6 * place) * 64 := by
    rw [show 24 - 6 * place = 18 - 6 * place + 6 by omega, Nat.pow_add]
  have below : 2 ^ (18 - 6 * place) * value.val < 2 ^ (24 - 6 * place) := by
    rw [step]
    exact Nat.mul_lt_mul_of_pos_left value.isLt (Nat.two_pow_pos _)
  have topmost : 2 ^ (24 - 6 * place) ≤ 2 ^ 24 := Nat.pow_le_pow_right (by omega) (by omega)
  have limit : UInt32.size = 4294967296 := rfl
  have valueWord : (UInt32.ofNat value.val).toNat = value.val :=
    UInt32.toNat_ofNat_of_lt' (Nat.lt_trans value.isLt (by decide))
  have shifted := shifted_left_value (UInt32.ofNat value.val) (show 18 - 6 * place < 32 by omega)
    (by rw [valueWord, Nat.mul_comm]; omega)
  rw [join, UInt32.toNat_or, free, shifted, valueWord, Nat.mul_comm value.val,
    ← Nat.two_pow_add_eq_or_of_lt below, step, Nat.mul_add, Nat.mul_assoc]

theorem join_zero (word : UInt32) (place : Nat) : join word place 0 = word := by
  simp [join]

theorem gathered_word (first second third fourth : Sextet) :
    gather 0 0 [first, second, third, fourth] =
      Word.ofBytes 0 (Radix64.firstByte first second) (Radix64.secondByte second third)
        (Radix64.thirdByte third fourth) := by
  have oneTaken :=
    join_value first (show 0 < 4 by omega) (show (0 : UInt32).toNat = 2 ^ (24 - 6 * 0) * 0 from rfl)
  have twoTaken := join_value second (show 1 < 4 by omega) oneTaken
  have threeTaken := join_value third (show 2 < 4 by omega) twoTaken
  have allTaken := join_value fourth (show 3 < 4 by omega) threeTaken
  rw [← UInt32.toNat_inj, ByteStream.of_bytes_value]
  refine allTaken.trans ?_
  simp [Radix64.firstByte, Radix64.secondByte, Radix64.thirdByte]
  omega

/-- The values missing from a short group count as zero. -/
theorem gathered_bytes {values : List Sextet} (nonempty : values ≠ []) (short : values.length ≤ 4) :
    slice (Word.toBytes (gather 0 0 values)) 1 values.length = .ok (Radix64.bytesOf values) := by
  have two (first second : Sextet) :
      gather 0 0 [first, second] = gather 0 0 [first, second, 0, 0] := by
    simp only [gather, join_zero]
  have three (first second third : Sextet) :
      gather 0 0 [first, second, third] = gather 0 0 [first, second, third, 0] := by
    simp only [gather, join_zero]
  match values with
  | [first] => rfl
  | [first, second] =>
      rw [two, gathered_word, Word.to_bytes_of_bytes]
      rfl
  | [first, second, third] =>
      rw [three, gathered_word, Word.to_bytes_of_bytes]
      rfl
  | [first, second, third, fourth] =>
      rw [gathered_word, Word.to_bytes_of_bytes]
      rfl

theorem values_from_append (offset : Nat) (front rest : List UInt8) :
    Radix64.valuesFrom offset (front ++ rest) =
      Radix64.valuesFrom offset front >>= fun values =>
        (Radix64.valuesFrom (offset + front.length) rest).map (values ++ ·) := by
  induction front generalizing offset with
  | nil =>
      change Radix64.valuesFrom offset rest = (Radix64.valuesFrom offset rest).map id
      cases Radix64.valuesFrom offset rest <;> rfl
  | cons byte front ih =>
      rw [List.cons_append, Radix64.valuesFrom, Radix64.valuesFrom, ih, List.length_cons,
        Nat.add_right_comm, ← Nat.add_assoc]
      cases Radix64.value? byte with
      | none => rfl
      | some value =>
          cases Radix64.valuesFrom (offset + 1) front with
          | error => rfl
          | ok => cases Radix64.valuesFrom (offset + front.length + 1) rest <;> rfl

theorem decode_group_runs {group : Nat} {chunk : List UInt8} (nonempty : chunk ≠ [])
    (short : chunk.length ≤ 4) (counted : 4 * group + 4 < USize.size) :
    decodeGroup group chunk =
      answer ((Radix64.valuesFrom (4 * group) chunk).map Radix64.bytesOf) := by
  rw [decodeGroup, take_symbols_run 0 (by omega) counted, Nat.add_zero]
  cases found : Radix64.valuesFrom (4 * group) chunk with
  | error => rfl
  | ok values =>
      obtain rfl := Radix64.values_from_sound _ _ _ found
      rw [List.length_map] at short
      change lift (slice (Word.toBytes (gather 0 0 values)) 1
          (values.map Radix64.symbolByte).length) = _
      rw [List.length_map, gathered_bytes (mt List.map_eq_nil_iff.mpr nonempty) short]
      rfl

theorem bytes_of_append {values : List Sextet} (full : values.length = 4) (rest : List Sextet) :
    Radix64.bytesOf (values ++ rest) = Radix64.bytesOf values ++ Radix64.bytesOf rest := by
  match values with
  | [first, second, third, fourth] => cases rest <;> rfl

theorem decode_groups_run (group : Nat) (text : List UInt8)
    (counted : 4 * group + text.length + 4 < USize.size) :
    decodeGroups group (chunks 4 text) =
      answer ((Radix64.valuesFrom (4 * group) text).map Radix64.bytesOf) := by
  by_cases short : text.length ≤ 4
  · by_cases nonempty : text = []
    · rw [nonempty, chunks_nil]
      rfl
    · rw [chunks_short nonempty short, decodeGroups, decode_group_runs nonempty short (by omega)]
      cases Radix64.valuesFrom (4 * group) text with
      | error => rfl
      | ok values =>
          change answer (.ok (Radix64.bytesOf values ++ [])) = _
          rw [List.append_nil]
          rfl
  · have front : (text.take 4).length = 4 := List.length_take_of_le (by omega)
    have rest : (text.drop 4).length = text.length - 4 := List.length_drop
    -- The rest is shorter, and its groups are counted on.
    have ih := decode_groups_run (group + 1) (text.drop 4) (by omega)
    rw [← List.take_append_drop 4 text, chunks_append front (by omega), decodeGroups, ih,
      decode_group_runs (List.length_pos_iff.mp (by omega)) (by omega) (by omega),
      values_from_append, front]
    cases found : Radix64.valuesFrom (4 * group) (text.take 4) with
    | error => rfl
    | ok values =>
        have full : values.length = 4 := by
          rw [← front, Radix64.values_from_sound _ _ _ found, List.length_map]
        rw [Nat.mul_add_one]
        cases Radix64.valuesFrom (4 * group + 4) (text.drop 4) with
        | error => rfl
        | ok others =>
            exact congrArg (fun bytes => answer (.ok bytes)) (bytes_of_append full others).symm
termination_by text.length

theorem decode_runs {text : List UInt8} (stored : text.length < USize.size / 2) :
    decode text = answer (Radix64.decode text) := by
  have limit := USize.le_size
  rw [decode, decoded_length_runs (by omega), lift_ok, answer_ok_bind, Radix64.decode]
  by_cases odd : text.length % 4 = 1
  · rw [if_pos odd, Radix64.decodedLength?, odd]
    rfl
  · rw [if_neg odd, Radix64.decoded_length_eq_some odd]
    exact decode_groups_run 0 text (by omega)

end Bcrypt.Machine
