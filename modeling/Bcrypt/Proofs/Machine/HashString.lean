import Bcrypt.Proofs.HashString.Refusal
import Bcrypt.Proofs.Machine.Hashing

/-!
# Hash strings on a machine

The pieces of a text are reached by index and its body is split by count. Both happen
only where the lengths have been looked at, and two digits make no large number: a
machine reads and writes hash strings as they are read and written.
-/

set_option autoImplicit false

namespace Bcrypt.Machine

open HashString (TwoDigits cut fields?)

/-- A text split at its first separators, of which at most the given number are looked for. -/
def pieces : (count : Nat) → List Char → List (List Char)
  | 0, text => [text]
  | count + 1, text =>
      match cut text with
      | none => [text]
      | some (before, after) => before :: pieces count after

section

variable {rest : List Char}

theorem cut_front (rest : List Char) : cut ('$' :: rest) = some ([], rest) := if_pos rfl

theorem pieces_of_fields {version cost body : List Char}
    (found : fields? ('$' :: rest) = some (version, cost, body)) :
    pieces 3 ('$' :: rest) = [[], version, cost, body] := by
  simp only [fields?, cut_front, Option.bind_eq_bind, Option.bind_some] at found
  cases first : cut rest with
  | none =>
      rw [first] at found
      contradiction
  | some front =>
      cases second : cut front.2 with
      | none =>
          simp only [first, second, Option.bind_some, Option.bind_none] at found
          contradiction
      | some middle =>
          simp only [first, second, Option.bind_some] at found
          cases found
          simp only [pieces, cut_front, first, second]

theorem pieces_of_none (missing : fields? ('$' :: rest) = none) :
    (pieces 3 ('$' :: rest)).length ≠ 4 := by
  simp only [fields?, cut_front, Option.bind_eq_bind, Option.bind_some] at missing
  cases first : cut rest with
  | none => simp [pieces, cut_front, first]
  | some front =>
      cases second : cut front.2 with
      | none => simp [pieces, cut_front, first, second]
      | some middle =>
          simp only [first, second, Option.bind_some] at missing
          contradiction

end

def isDigit (byte : UInt8) : Bool := '0'.toNat ≤ byte.toNat && byte.toNat ≤ '9'.toNat

def costValue? : List UInt8 → Checked (Option Nat)
  | [tens, ones] =>
      if isDigit tens && isDigit ones then do
        let tens ← subtract tens.toNat '0'.toNat
        let tens ← bounded UInt32.size (tens * 10)
        let ones ← subtract ones.toNat '0'.toNat
        some <$> bounded UInt32.size (tens + ones)
      else
        pure none
  | _ => pure none

theorem is_digit_iff (byte : UInt8) : isDigit byte = true ↔ 48 ≤ byte.toNat ∧ byte.toNat ≤ 57 := by
  rw [isDigit, Bool.and_eq_true, decide_eq_true_iff, decide_eq_true_iff]
  rfl

theorem digit_byte {digit : Char} (shaped : digit.isDigit = true) :
    digit.toUInt8.toNat = digit.toNat := by
  have bounds := digit_bounds shaped
  have code : digit.toUInt8.toNat = digit.toNat % 256 := rfl
  omega

theorem two_digits_bytes {field : List Char} {tens ones : Char}
    (shaped : TwoDigits field tens ones) : Text.utf8 field = [tens.toUInt8, ones.toUInt8] := by
  rw [shaped.shape, Text.utf8_of_ascii]
  · rfl
  · intro character member
    have tensBounds := digit_bounds shaped.tens
    have onesBounds := digit_bounds shaped.ones
    simp only [List.mem_cons, List.not_mem_nil, or_false] at member
    rcases member with rfl | rfl <;> omega

theorem two_digits_of_bytes {field : List Char} {tens ones : UInt8}
    (bytes : Text.utf8 field = [tens, ones]) (tensDigit : isDigit tens = true)
    (onesDigit : isDigit ones = true) :
    TwoDigits field (Char.ofUInt8 tens) (Char.ofUInt8 ones) := by
  have character {byte : UInt8} (digit : isDigit byte = true) :
      (Char.ofUInt8 byte).isDigit = true := by
    have bounds := (is_digit_iff byte).mp digit
    change (decide (48 ≤ byte.toUInt32) && decide (byte.toUInt32 ≤ 57)) = true
    simpa [UInt32.le_iff_toNat_le] using bounds
  have same {byte : UInt8} : (Char.ofUInt8 byte).toUInt8 = byte := UInt8.toUInt8_toUInt32 byte
  have shaped :
      TwoDigits [Char.ofUInt8 tens, Char.ofUInt8 ones] (Char.ofUInt8 tens) (Char.ofUInt8 ones) :=
    ⟨rfl, character tensDigit, character onesDigit⟩
  have sameText : String.ofList field = String.ofList [Char.ofUInt8 tens, Char.ofUInt8 ones] := by
    apply Text.bytes_injective
    rw [Text.bytes, Text.bytes, String.toList_ofList, String.toList_ofList, bytes,
      two_digits_bytes shaped, same, same]
  have shape := congrArg String.toList sameText
  rw [String.toList_ofList, String.toList_ofList] at shape
  rwa [shape]

theorem cost_value_of_digits {tens ones : UInt8} (tensDigit : isDigit tens = true)
    (onesDigit : isDigit ones = true) :
    costValue? [tens, ones] = .ok (some (10 * (tens.toNat - 48) + (ones.toNat - 48))) := by
  have limit : UInt32.size = 4294967296 := rfl
  have tensBounds := (is_digit_iff tens).mp tensDigit
  have onesBounds := (is_digit_iff ones).mp onesDigit
  rw [costValue?, tensDigit, onesDigit]
  change (subtract tens.toNat 48 >>= fun tens => bounded UInt32.size (tens * 10) >>= fun tens =>
      subtract ones.toNat 48 >>= fun ones => some <$> bounded UInt32.size (tens + ones)) = _
  rw [subtract_ok tensBounds.1, ok_bind, bounded, if_pos (by omega), ok_bind,
    subtract_ok onesBounds.1, ok_bind, bounded, if_pos (by omega), Nat.mul_comm]
  rfl

theorem cost_value_runs (field : List Char) :
    costValue? (Text.utf8 field) =
      .ok (if field.length = 2 ∧ field.all Char.isDigit = true then
          some (Nat.ofDigitChars 10 field 0)
        else
          none) := by
  by_cases shaped : ∃ tens ones, TwoDigits field tens ones
  · rcases shaped with ⟨tens, ones, shaped⟩
    have byteDigit {digit : Char} (shaped : digit.isDigit = true) :
        isDigit digit.toUInt8 = true := by
      rw [is_digit_iff, digit_byte shaped]
      exact digit_bounds shaped
    rw [if_pos ((HashString.two_digits_iff field).mpr ⟨tens, ones, shaped⟩),
      two_digits_bytes shaped, HashString.value_of_two_digits shaped,
      cost_value_of_digits (byteDigit shaped.tens) (byteDigit shaped.ones), digit_byte shaped.tens,
      digit_byte shaped.ones]
    rfl
  · rw [if_neg (mt (HashString.two_digits_iff field).mp shaped)]
    match bytes : Text.utf8 field with
    | [tens, ones] =>
        rw [costValue?, if_neg]
        · rfl
        · intro digits
          rcases Bool.and_eq_true_iff.mp digits with ⟨tensDigit, onesDigit⟩
          exact shaped ⟨_, _, two_digits_of_bytes bytes tensDigit onesDigit⟩
    | [] | [_] | _ :: _ :: _ :: _ => rfl

def parseCost (field : List Char) : Fallible Error Cost := do
  match ← lift (costValue? (Text.utf8 field)) with
  | some value => answer (Cost.ofNat value)
  | none =>
      answer (.error (.malformedHash
        ("invalid cost field " ++ Text.Quoted.quote (String.ofList field))))

def parseBody (body : List UInt8) : Fallible Error (Salt × Digest) :=
  if body.length = HashString.bodyLength then do
    let saltText ← lift (slice body 0 Salt.encodedLength)
    let digestText ← lift (slice body Salt.encodedLength body.length)
    let salt ← (decodeSalt saltText).adapt .invalidSalt
    let digest ← decodeDigest digestText
    return (salt, digest)
  else
    answer (.error (.malformedHash ("salt and digest are " ++ toString body.length ++
      " characters, expected " ++ toString HashString.bodyLength)))

def unseparated (parts : List (List Char)) : Checked Bool :=
  if parts.length = 4 then (· ≠ []) <$> read parts 0 else pure true

def parseParts (parts : List (List Char)) : Fallible Error HashString := do
  if ← lift (unseparated parts) then
    answer (.error (.malformedHash "missing '$' separators"))
  else
    let version ← answer (HashString.parseVersion (← lift (read parts 1)))
    let cost ← parseCost (← lift (read parts 2))
    let (salt, digest) ← parseBody (Text.utf8 (← lift (read parts 3)))
    return ⟨version, cost, salt, digest⟩

def parse (text : String) : Fallible Error HashString :=
  if (Text.bytes text).length < 4 ∨ text.toList.head? ≠ some '$' then
    answer (.error (.malformedHash "hash string too short"))
  else
    parseParts (pieces 3 text.toList)

def print (parts : HashString) : Checked String := do
  let salt ← encode parts.salt.bytes.toList
  let digest ← encode parts.digest.bytes.toList
  return "$" ++ parts.version.tag ++ "$" ++ parts.cost.text ++ "$" ++ salt ++ digest

theorem parse_cost_runs (field : List Char) :
    parseCost field = answer (HashString.parseCost field) := by
  rw [parseCost, cost_value_runs, lift_ok, answer_ok_bind, HashString.parseCost]
  by_cases shaped : field.length = 2 ∧ field.all Char.isDigit = true
  · rw [if_pos shaped, if_pos shaped]
  · rw [if_neg shaped, if_neg shaped]

theorem parse_body_runs (body : List UInt8) :
    parseBody body = answer (HashString.parseBody body) := by
  rw [parseBody, HashString.parseBody]
  by_cases sized : body.length = HashString.bodyLength
  · have limit := USize.le_size
    have fiftyThree : body.length = 53 := sized
    have salt : slice body 0 22 = .ok (body.take 22) := slice_ok (Nat.zero_le _) (by omega)
    have digest : slice body 22 body.length = .ok (body.drop 22) := by
      rw [slice_ok (by omega) (Nat.le_refl _), List.take_length]
    rw [if_pos sized, if_pos sized, show Salt.encodedLength = 22 from rfl, salt, digest, lift_ok,
      answer_ok_bind, lift_ok, answer_ok_bind, decode_salt_runs, adapt_answer, decode_digest_runs]
    · cases Salt.decode (body.take 22) with
      | error => rfl
      | ok salt => cases Digest.decode (body.drop 22) <;> rfl
    · rw [List.length_drop]
      omega
    · rw [List.length_take]
      omega
  · rw [if_neg sized, if_neg sized]

theorem parse_runs (text : String) : parse text = answer (HashString.parse text) := by
  rw [parse, HashString.parse]
  by_cases short : (Text.bytes text).length < 4 ∨ text.toList.head? ≠ some '$'
  · rw [if_pos short, if_pos short]
  · rw [if_neg short, if_neg short]
    rcases not_or.mp short with ⟨_, opened⟩
    rcases List.head?_eq_some_iff.mp (Decidable.not_not.mp opened) with ⟨rest, characters⟩
    rw [characters]
    cases found : fields? ('$' :: rest) with
    | none =>
        have uncut : unseparated (pieces 3 ('$' :: rest)) = .ok true :=
          if_neg (pieces_of_none found)
        rw [parseParts, uncut]
        rfl
    | some fields =>
        rcases fields with ⟨version, cost, body⟩
        rw [pieces_of_fields found]
        change (answer (HashString.parseVersion version) >>= fun version =>
          parseCost cost >>= fun cost =>
            parseBody (Text.utf8 body) >>= fun pair =>
              answer (.ok (HashString.mk version cost pair.1 pair.2))) = _
        rw [parse_cost_runs, parse_body_runs]
        dsimp only
        cases HashString.parseVersion version with
        | error => rfl
        | ok version =>
            cases HashString.parseCost cost with
            | error => rfl
            | ok cost => cases HashString.parseBody (Text.utf8 body) <;> rfl

theorem print_runs (parts : HashString) : print parts = .ok parts.print := by
  rw [print, encode_salt_runs, ok_bind, encode_digest_runs]
  rfl

end Bcrypt.Machine
