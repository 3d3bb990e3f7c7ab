import Bcrypt.Proofs.HashString
import Bcrypt.Proofs.Radix64.Reading
import Mathlib.Data.List.Basic

/-!
# The fields of a hash string

Each field reader takes just the texts that its value has: the tag of the version, the
two digits of the cost, the symbols of values that spell salt and digest. So a text
reads exactly if it is these fields behind their separators.
-/

set_option autoImplicit false

namespace Bcrypt

open Radix64 (Spells symbolByte)

theorem except_bind_ok {α β : Type} {first : Except Error α} {next : α → Except Error β}
    {result : β} (succeeded : (first >>= next) = .ok result) :
    ∃ value, first = .ok value ∧ next value = .ok result := by
  cases first with
  | error error => contradiction
  | ok value => exact ⟨value, rfl, succeeded⟩

theorem digit_char_of_digit (character : Char) (digit : character.isDigit = true) :
    Nat.digitChar (character.toNat - '0'.toNat) = character := by
  have bounds := digit_bounds digit
  have zero : '0'.toNat = 48 := rfl
  apply Char.toNat_inj.mp
  rw [Nat.toNat_digitChar_of_lt_ten (by omega)]
  omega

namespace Cost

def tens (cost : Cost) : Fin 10 := ⟨cost.value / 10, by have bounded := cost.value_lt; omega⟩

def ones (cost : Cost) : Fin 10 := ⟨cost.value % 10, Nat.mod_lt _ (by decide)⟩

theorem of_nat_sound {value : Nat} {cost : Cost} (accepted : ofNat value = .ok cost) :
    cost.value = value := by
  rw [ofNat] at accepted
  split at accepted
  · obtain rfl := Except.ok.inj accepted
    rfl
  · contradiction

theorem digits_unique {cost : Cost} {first second : Char} (firstDigit : first.isDigit = true)
    (secondDigit : second.isDigit = true)
    (same : cost.value = Nat.ofDigitChars 10 [first, second] 0) :
    [first, second] = cost.digits := by
  have firstChar := digit_char_of_digit first firstDigit
  have secondChar := digit_char_of_digit second secondDigit
  have secondBound := digit_bounds secondDigit
  have zero : '0'.toNat = 48 := rfl
  simp only [Nat.ofDigitChars_cons, Nat.ofDigitChars_nil] at same
  have high : cost.value / 10 = first.toNat - '0'.toNat := by omega
  have low : cost.value % 10 = second.toNat - '0'.toNat := by omega
  rw [digits, high, low, firstChar, secondChar]

end Cost

namespace HashString

theorem cut_sound {text before after : List Char} (found : cut text = some (before, after)) :
    text = before ++ '$' :: after := by
  induction text generalizing before with
  | nil => contradiction
  | cons character rest ih =>
      rw [cut] at found
      split at found
      · rename_i separator
        obtain ⟨rfl, rfl⟩ := Prod.mk.inj (Option.some.inj found)
        rw [separator]
        rfl
      · obtain ⟨⟨first, last⟩, inner, same⟩ := Option.map_eq_some_iff.mp found
        obtain ⟨rfl, rfl⟩ := Prod.mk.inj same
        rw [ih inner]
        rfl

/-- Behind a separator the fields are what two further separators mark off. -/
theorem fields_sound {text version cost body : List Char}
    (found : fields? ('$' :: text) = some (version, cost, body)) :
    text = version ++ '$' :: (cost ++ '$' :: body) := by
  have start : cut ('$' :: text) = some ([], text) := rfl
  simp only [fields?, Option.bind_eq_bind, start, Option.bind_some] at found
  obtain ⟨⟨first, afterFirst⟩, firstCut, found⟩ := Option.bind_eq_some_iff.mp found
  obtain ⟨⟨second, afterSecond⟩, secondCut, found⟩ := Option.bind_eq_some_iff.mp found
  obtain ⟨rfl, rfl, rfl⟩ : first = version ∧ second = cost ∧ afterSecond = body := by
    simpa using found
  rw [cut_sound firstCut]
  exact congrArg _ (congrArg _ (cut_sound secondCut))

theorem tag_sound {text : String} {version : Version} (read : Version.parse text = .ok version) :
    text = version.tag := by
  simp only [Version.parse] at read
  split at read
  · obtain rfl := Except.ok.inj read
    assumption
  · split at read
    · obtain rfl := Except.ok.inj read
      assumption
    · split at read
      · obtain rfl := Except.ok.inj read
        assumption
      · contradiction

theorem parse_version_sound {field : List Char} {version : Version}
    (read : parseVersion field = .ok version) : field = version.tag.toList := by
  rw [parseVersion] at read
  split at read
  · rw [← tag_sound read, String.toList_ofList]
  · contradiction

theorem parse_cost_sound {field : List Char} {cost : Cost} (read : parseCost field = .ok cost) :
    field = cost.digits := by
  rw [parseCost] at read
  split at read
  · rename_i shaped
    obtain ⟨first, second, rfl⟩ := List.length_eq_two.mp shaped.1
    have digits := List.all_eq_true.mp shaped.2
    exact Cost.digits_unique (digits first (by simp)) (digits second (by simp))
      (Cost.of_nat_sound read)
  · contradiction

theorem parse_body_eq_ok_iff (body : List UInt8) (salt : Salt) (digest : Digest) :
    parseBody body = .ok (salt, digest) ↔
      body.length = bodyLength ∧ Salt.decode (body.take Salt.encodedLength) = .ok salt ∧
        Digest.decode (body.drop Salt.encodedLength) = .ok digest := by
  rw [parseBody]
  by_cases sized : body.length = bodyLength
  · rw [if_pos sized]
    cases Salt.decode (body.take Salt.encodedLength) with
    | error error => simp
    | ok decoded =>
        cases Digest.decode (body.drop Salt.encodedLength) with
        | error error => simp [Except.map]
        | ok other => simp [Except.map, sized]
  · simp [sized]

theorem parse_body_iff (body : List UInt8) (salt : Salt) (digest : Digest) :
    parseBody body = .ok (salt, digest) ↔
      ∃ saltValues digestValues,
        Spells saltValues salt.bytes.toList ∧ Spells digestValues digest.bytes.toList ∧
        body = (saltValues ++ digestValues).map symbolByte := by
  rw [parse_body_eq_ok_iff, Salt.reads_size.reads_iff_spells, Digest.reads_size.reads_iff_spells]
  constructor
  · rintro ⟨_, ⟨saltValues, saltSpelled, front⟩, digestValues, digestSpelled, back⟩
    refine ⟨saltValues, digestValues, saltSpelled, digestSpelled, ?_⟩
    rw [List.map_append, ← front, ← back, List.take_append_drop]
  · rintro ⟨saltValues, digestValues, saltSpelled, digestSpelled, rfl⟩
    have front : (saltValues.map symbolByte).length = Salt.encodedLength := by
      rw [List.length_map, saltSpelled.length_of_vector]
      rfl
    have back : (digestValues.map symbolByte).length = Digest.encodedLength := by
      rw [List.length_map, digestSpelled.length_of_vector]
      rfl
    rw [List.map_append, List.take_left' front, List.drop_left' front, List.length_append, front,
      back]
    exact ⟨rfl, ⟨saltValues, saltSpelled, rfl⟩, digestValues, digestSpelled, rfl⟩

theorem parse_sound {text : String} {parts : HashString} (read : parse text = .ok parts) :
    ∃ body : List Char,
      text.toList = '$' :: (parts.version.tag.toList ++ '$' :: (parts.cost.digits ++ '$' :: body)) ∧
        parseBody (Text.utf8 body) = .ok (parts.salt, parts.digest) := by
  rw [parse] at read
  split at read
  · contradiction
  · rename_i started
    simp only [not_or, not_not] at started
    obtain ⟨rest, opened⟩ := List.head?_eq_some_iff.mp started.2
    split at read
    · contradiction
    · rename_i versionField costField body found
      obtain ⟨version, versionRead, read⟩ := except_bind_ok read
      obtain ⟨cost, costRead, read⟩ := except_bind_ok read
      obtain ⟨⟨salt, digest⟩, bodyRead, read⟩ := except_bind_ok read
      obtain rfl := Except.ok.inj read
      rw [opened] at found
      refine ⟨body, ?_, bodyRead⟩
      rw [opened, fields_sound found, parse_version_sound versionRead, parse_cost_sound costRead]

end HashString

end Bcrypt
