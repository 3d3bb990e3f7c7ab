import Bcrypt.HashString
import Bcrypt.Proofs.Radix64

/-!
# Hash strings there and back

A written hash string reads back as what it was written from. The three separators cut
it where they were put, since neither a version tag nor two digits hold one; salt and
digest are then told apart by the length of their encodings.
-/

set_option autoImplicit false

namespace Bcrypt

theorem digit_bounds {digit : Char} (shaped : digit.isDigit = true) :
    48 ≤ digit.toNat ∧ digit.toNat ≤ 57 :=
  Char.isDigit_iff_toNat.mp shaped

theorem Cost.value_lt (cost : Cost) : cost.value < 100 :=
  Nat.lt_of_le_of_lt cost.le_greatest (by decide)

theorem Cost.digits_value (cost : Cost) : Nat.ofDigitChars 10 cost.digits 0 = cost.value := by
  have bounded := cost.value_lt
  have tens : cost.value / 10 < 10 := by omega
  have ones : cost.value % 10 < 10 := Nat.mod_lt _ (by decide)
  rw [Cost.digits, Nat.ofDigitChars_cons_digitChar_of_lt_ten tens,
    Nat.ofDigitChars_cons_digitChar_of_lt_ten ones, Nat.ofDigitChars_nil]
  omega

theorem Cost.digits_are_digits (cost : Cost) : cost.digits.all Char.isDigit = true := by
  have bounded := cost.value_lt
  have tens : cost.value / 10 < 10 := by omega
  have ones : cost.value % 10 < 10 := Nat.mod_lt _ (by decide)
  simp [Cost.digits, Nat.isDigit_digitChar, tens, ones]

theorem Cost.digits_bytes_length (cost : Cost) : (Text.utf8 cost.digits).length = 2 := by
  have ascii : ∀ character ∈ cost.digits, character.toNat < 128 := by
    intro character member
    have bounds := digit_bounds (List.all_eq_true.mp cost.digits_are_digits character member)
    omega
  rw [Text.utf8_of_ascii _ ascii, List.length_map]
  rfl

theorem Cost.of_nat_value (cost : Cost) : Cost.ofNat cost.value = .ok cost := by
  rw [Cost.ofNat, dif_pos ⟨cost.least_le, cost.le_greatest⟩]

namespace HashString

theorem cut_at_separator (before after : List Char) (absent : '$' ∉ before) :
    cut (before ++ '$' :: after) = some (before, after) := by
  induction before with
  | nil => rfl
  | cons character before ih =>
      simp only [List.mem_cons, not_or] at absent
      rw [List.cons_append, cut, if_neg (Ne.symm absent.1), ih absent.2]
      rfl

theorem print_to_list (parts : HashString) :
    parts.print.toList =
      '$' :: (parts.version.tag.toList ++ '$' :: (parts.cost.digits ++ '$' ::
        (parts.salt.encode.toList ++ parts.digest.encode.toList))) := by
  simp [print, Cost.text]

theorem separator_not_in_tag (version : Version) : '$' ∉ version.tag.toList := by
  cases version <;> decide

theorem separator_not_in_digits (cost : Cost) : '$' ∉ cost.digits := by
  intro member
  have digits := List.all_eq_true.mp cost.digits_are_digits '$' member
  exact absurd digits (by decide)

/-- Two fields without a separator are told apart, and what follows them may hold anything. -/
theorem fields_at_separators (version cost body : List Char) (noneInVersion : '$' ∉ version)
    (noneInCost : '$' ∉ cost) :
    fields? ('$' :: (version ++ '$' :: (cost ++ '$' :: body))) = some (version, cost, body) := by
  have start := cut_at_separator [] (version ++ '$' :: (cost ++ '$' :: body)) (by simp)
  rw [List.nil_append] at start
  simp only [fields?, Option.bind_eq_bind, start, Option.bind_some,
    cut_at_separator version _ noneInVersion, cut_at_separator cost _ noneInCost]
  rfl

theorem parse_version_tag (version : Version) : parseVersion version.tag.toList = .ok version := by
  have shaped :
      (Text.utf8 version.tag.toList).length = 2 ∧ version.tag.toList.head? = some '2' := by
    cases version <;> decide
  rw [parseVersion, if_pos shaped, String.ofList_toList]
  cases version <;> rfl

theorem parse_cost_digits (cost : Cost) : parseCost cost.digits = .ok cost := by
  rw [parseCost, if_pos ⟨rfl, cost.digits_are_digits⟩, cost.digits_value, cost.of_nat_value]

theorem body_bytes_length (salt : Salt) (digest : Digest) :
    (Text.bytes salt.encode ++ Text.bytes digest.encode).length = bodyLength := by
  rw [List.length_append, salt.encode_length, digest.encode_length, bodyLength]

theorem parse_body_encoded (salt : Salt) (digest : Digest) :
    parseBody (Text.bytes salt.encode ++ Text.bytes digest.encode) = .ok (salt, digest) := by
  rw [parseBody, if_pos (body_bytes_length salt digest), List.take_left' salt.encode_length,
    List.drop_left' salt.encode_length, salt.decode_encoded, digest.decode_encoded]
  rfl

theorem tag_bytes_length (version : Version) : (Text.bytes version.tag).length = 2 := by
  cases version <;> decide

theorem print_bytes_length (parts : HashString) : (Text.bytes parts.print).length = length := by
  have separator : (String.utf8EncodeChar '$').length = 1 := by decide
  have tag := tag_bytes_length parts.version
  have digits := parts.cost.digits_bytes_length
  have body := body_bytes_length parts.salt parts.digest
  simp only [Text.bytes, List.length_append] at tag body ⊢
  simp only [print_to_list, Text.utf8_cons, Text.utf8_append, List.length_append, separator, tag,
    digits]
  rw [length]
  omega

theorem print_character_count (parts : HashString) : parts.print.length = length := by
  have tag : parts.version.tag.toList.length = 2 := by cases parts.version <;> rfl
  have digits : parts.cost.digits.length = 2 := rfl
  have salt : parts.salt.encode.length = Salt.encodedLength :=
    Radix64.encode_vector_count parts.salt.bytes
  have digest : parts.digest.encode.length = Digest.encodedLength :=
    Radix64.encode_vector_count parts.digest.bytes
  rw [← String.length_toList, print_to_list, length, bodyLength]
  simp only [List.length_cons, List.length_append, String.length_toList, tag, digits, salt, digest]
  omega

theorem line_break_not_in_print (parts : HashString) : '\n' ∉ parts.print.toList := by
  have tag : '\n' ∉ parts.version.tag.toList := by cases parts.version <;> decide
  have digits : '\n' ∉ parts.cost.digits := by
    intro member
    exact absurd (List.all_eq_true.mp parts.cost.digits_are_digits '\n' member) (by decide)
  have symbols : ∀ value, Radix64.symbol value ≠ '\n' := by decide
  have encoded (bytes : List UInt8) : '\n' ∉ (Radix64.encode bytes).toList := by
    intro member
    rw [Radix64.encode_to_list] at member
    rcases List.mem_map.mp member with ⟨value, _, same⟩
    exact symbols value same
  have salt : '\n' ∉ parts.salt.encode.toList := encoded _
  have digest : '\n' ∉ parts.digest.encode.toList := encoded _
  simp [print_to_list, tag, digits, salt, digest]

/-- Fields that are read on their own are read together, behind their separators. -/
theorem parse_complete {text : String} {parts : HashString} {body : List Char}
    (shaped : text.toList =
      '$' :: (parts.version.tag.toList ++ '$' :: (parts.cost.digits ++ '$' :: body)))
    (bodyRead : parseBody (Text.utf8 body) = .ok (parts.salt, parts.digest)) :
    parse text = .ok parts := by
  have long : ¬(Text.bytes text).length < 4 := by
    have separator : (String.utf8EncodeChar '$').length = 1 := by decide
    have tag := tag_bytes_length parts.version
    simp only [Text.bytes] at tag ⊢
    simp only [shaped, Text.utf8_cons, Text.utf8_append, List.length_append, separator, tag]
    omega
  have opened : text.toList.head? = some '$' := by
    rw [shaped]
    rfl
  have fields := fields_at_separators parts.version.tag.toList parts.cost.digits body
    (separator_not_in_tag parts.version) (separator_not_in_digits parts.cost)
  rw [parse, if_neg (not_or.mpr ⟨long, not_not_intro opened⟩), shaped, fields]
  simp only [parse_version_tag, parse_cost_digits, bodyRead]
  rfl

theorem parse_print (parts : HashString) : parse parts.print = .ok parts := by
  apply parse_complete (print_to_list parts)
  rw [Text.utf8_append]
  exact parse_body_encoded parts.salt parts.digest

end HashString

end Bcrypt
