import Bcrypt.Error

/-!
# bcrypt's radix-64 text

Three bytes are written as four symbols. One or two bytes at the end are written as two
or three symbols, without padding. Reading ignores the low bits of the last symbol of
such a partial group, so several texts can stand for the same bytes; writing leaves
those bits zero.
-/

set_option autoImplicit false

namespace Bcrypt.Radix64

abbrev Sextet := Fin 64

def alphabet : Vector Char 64 := #v[
  '.', '/', 'A', 'B', 'C', 'D', 'E', 'F', 'G', 'H', 'I', 'J', 'K', 'L', 'M', 'N',
  'O', 'P', 'Q', 'R', 'S', 'T', 'U', 'V', 'W', 'X', 'Y', 'Z', 'a', 'b', 'c', 'd',
  'e', 'f', 'g', 'h', 'i', 'j', 'k', 'l', 'm', 'n', 'o', 'p', 'q', 'r', 's', 't',
  'u', 'v', 'w', 'x', 'y', 'z', '0', '1', '2', '3', '4', '5', '6', '7', '8', '9']

def symbol (value : Sextet) : Char :=
  alphabet[value]

def value? (byte : UInt8) : Option Sextet :=
  let code := byte.toNat
  if h : 46 ≤ code ∧ code ≤ 47 then some ⟨code - 46, by omega⟩
  else if h : 65 ≤ code ∧ code ≤ 90 then some ⟨code - 65 + 2, by omega⟩
  else if h : 97 ≤ code ∧ code ≤ 122 then some ⟨code - 97 + 28, by omega⟩
  else if h : 48 ≤ code ∧ code ≤ 57 then some ⟨code - 48 + 54, by omega⟩
  else none

def encodedLength (size : Nat) : Nat :=
  size / 3 * 4 + if size % 3 = 0 then 0 else size % 3 + 1

/-- How many bytes a number of symbols stands for; none for the lengths that no encoding has. -/
def decodedLength? (length : Nat) : Option Nat :=
  match length % 4 with
  | 0 => some (length / 4 * 3)
  | 1 => none
  | rest => some (length / 4 * 3 + rest - 1)

theorem value_symbol (value : Sextet) : value? (symbol value).toUInt8 = some value := by
  revert value
  decide

def firstSextet (first : UInt8) : Sextet :=
  ⟨first.toNat / 4, by have bound := first.toNat_lt; omega⟩

def secondSextet (first second : UInt8) : Sextet :=
  ⟨first.toNat % 4 * 16 + second.toNat / 16, by have bound := second.toNat_lt; omega⟩

def thirdSextet (second third : UInt8) : Sextet :=
  ⟨second.toNat % 16 * 4 + third.toNat / 64, by have bound := third.toNat_lt; omega⟩

def fourthSextet (third : UInt8) : Sextet :=
  ⟨third.toNat % 64, by omega⟩

/-- The values of the symbols for a sequence of bytes. A byte missing from the last
group counts as zero. -/
def sextets : List UInt8 → List Sextet
  | [] => []
  | [first] => [firstSextet first, secondSextet first 0]
  | [first, second] => [firstSextet first, secondSextet first second, thirdSextet second 0]
  | first :: second :: third :: rest =>
      firstSextet first :: secondSextet first second :: thirdSextet second third ::
        fourthSextet third :: sextets rest

def encode (bytes : List UInt8) : String :=
  String.ofList ((sextets bytes).map symbol)

/-- The values of all symbols, or the first byte that is none. Offsets count on from the
given one. -/
def valuesFrom (offset : Nat) : List UInt8 → Except DecodeError (List Sextet)
  | [] => .ok []
  | byte :: rest =>
      match value? byte with
      | none => .error (.invalidByte offset byte)
      | some value => (valuesFrom (offset + 1) rest).map (value :: ·)

def firstByte (first second : Sextet) : UInt8 :=
  UInt8.ofNat (first.val * 4 + second.val / 16)

def secondByte (second third : Sextet) : UInt8 :=
  UInt8.ofNat (second.val % 16 * 16 + third.val / 4)

def thirdByte (third fourth : Sextet) : UInt8 :=
  UInt8.ofNat (third.val % 4 * 64 + fourth.val)

def bytesOf : List Sextet → List UInt8
  | [] => []
  | [_] => []
  | [first, second] => [firstByte first second]
  | [first, second, third] => [firstByte first second, secondByte second third]
  | first :: second :: third :: fourth :: rest =>
      firstByte first second :: secondByte second third :: thirdByte third fourth :: bytesOf rest

/-- Reads a text. A length that no encoding has is found first, then the first byte that
is no symbol. -/
def decode (text : List UInt8) : Except DecodeError (List UInt8) :=
  if text.length % 4 = 1 then .error (.invalidLength text.length)
  else (valuesFrom 0 text).map bytesOf

/-- In which words a reader refuses a text that does not decode, and one that decodes to
another number of bytes. -/
structure Wording (ε : Type) where
  undecoded : DecodeError → ε
  missized : Nat → ε

def ofSize? (size : Nat) (bytes : List UInt8) : Option (Vector UInt8 size) :=
  if sized : bytes.length = size then some ⟨bytes.toArray, sized⟩ else none

def decodeSized {ε : Type} (words : Wording ε) (size : Nat) (text : List UInt8) :
    Except ε (Vector UInt8 size) :=
  match decode text with
  | .error error => .error (words.undecoded error)
  | .ok bytes =>
      match ofSize? size bytes with
      | some sized => .ok sized
      | none => .error (words.missized bytes.length)

end Bcrypt.Radix64
