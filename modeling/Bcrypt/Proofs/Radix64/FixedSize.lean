import Bcrypt.Proofs.Radix64.Refusal

/-!
# Texts for a fixed number of bytes

A salt is read from a text for sixteen bytes, a digest from a text for twenty-three.
Every number of bytes has one length of text, so each of the two readers accepts the
symbols of one length and nothing else. What it refuses, it refuses for the first of
three objections: the length of no encoding, a foreign byte, another number of bytes.
-/

set_option autoImplicit false

namespace Bcrypt

open Radix64

inductive Refusal {ε : Type} (words : Wording ε) (size : Nat) (text : List UInt8) : ε → Prop where
  | incomplete (length : text.length % 4 = 1) :
      Refusal words size text (words.undecoded (.invalidLength text.length))
  | foreign {offset : Nat} {byte : UInt8} (complete : text.length % 4 ≠ 1)
      (first : FirstForeign text offset byte) :
      Refusal words size text (words.undecoded (.invalidByte offset byte))
  | missized {decoded : Nat} (symbols : ∀ byte ∈ text, IsSymbol byte)
      (length : decodedLength? text.length = some decoded) (other : decoded ≠ size) :
      Refusal words size text (words.missized decoded)

namespace Radix64.ReadsSize

variable {ε α : Type} {read : List UInt8 → Except ε α} {view : α → List UInt8} {words : Wording ε}
  {size : Nat} (reads : ReadsSize read view words size) (text : List UInt8)

include reads

theorem refused_iff (error : ε) :
    read text = .error error ↔ Refusal words size text error := by
  rw [reads.refuses_iff]
  constructor
  · rintro (⟨cause, failed, rfl⟩ | ⟨bytes, decoded, other, rfl⟩)
    · rcases (decode_eq_error_iff text cause).mp failed with
        ⟨length, rfl⟩ | ⟨complete, offset, byte, first, rfl⟩
      · exact .incomplete length
      · exact .foreign complete first
    · exact .missized (symbols_of_decode decoded).2 (decoded_length_of_decode decoded) other
  · intro refusal
    cases refusal with
    | incomplete length => exact .inl ⟨_, decode_of_length length, rfl⟩
    | @foreign offset byte complete first =>
        have failed := (decode_eq_error_iff text _).mpr (.inr ⟨complete, offset, byte, first, rfl⟩)
        exact .inl ⟨_, failed, rfl⟩
    | @missized decodedSize symbols length other =>
        have complete := encoded_length_mod_four decodedSize
        rw [(decoded_length_eq_some_iff _ _).mp length] at complete
        rcases decode_of_symbols complete symbols with ⟨bytes, decoded⟩
        have sized := decoded_length_of_decode decoded
        rw [length] at sized
        obtain rfl := Option.some.inj sized
        exact .inr ⟨bytes, decoded, other, rfl⟩

end Radix64.ReadsSize

end Bcrypt
