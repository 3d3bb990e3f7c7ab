/-!
# The bytes of a text

Lengths of passwords and of hash strings are counted in the bytes of the UTF-8 encoding.
For ASCII text that is one byte for each character.
-/

set_option autoImplicit false

namespace Bcrypt.Text

def utf8 (characters : List Char) : List UInt8 :=
  characters.flatMap String.utf8EncodeChar

def bytes (text : String) : List UInt8 :=
  utf8 text.toList

@[simp] theorem utf8_nil : utf8 [] = [] := rfl

@[simp] theorem utf8_cons (character : Char) (rest : List Char) :
    utf8 (character :: rest) = String.utf8EncodeChar character ++ utf8 rest := rfl

@[simp] theorem utf8_append (first second : List Char) :
    utf8 (first ++ second) = utf8 first ++ utf8 second := by
  simp [utf8]

theorem utf8_of_ascii (characters : List Char)
    (ascii : ∀ character ∈ characters, character.toNat < 128) :
    utf8 characters = characters.map Char.toUInt8 := by
  induction characters with
  | nil => rfl
  | cons character rest ih =>
      have single : character.utf8Size = 1 := by
        rw [Char.utf8Size_eq_one_iff, UInt32.le_iff_toNat_le]
        have bound := ascii character (by simp)
        have code : character.toNat = character.val.toNat := rfl
        have greatest : (127 : UInt32).toNat = 127 := rfl
        omega
      rw [utf8_cons, String.utf8EncodeChar_eq_singleton single, List.map_cons,
        ih fun other member => ascii other (by simp [member])]
      rfl

theorem bytes_injective {text other : String} (same : bytes text = bytes other) : text = other := by
  have encoded := congrArg List.toByteArray same
  change text.toList.utf8Encode = other.toList.utf8Encode at encoded
  rwa [String.utf8Encode_toList, String.utf8Encode_toList, String.toByteArray_inj] at encoded

end Bcrypt.Text
