import Bcrypt.Proofs.HashString.Language
import Bcrypt.Proofs.Verification

/-!
# One digest behind every way of hashing

A digest comes out raw, as text, in a buffer or inside a hash string. All of these check
the cost first and an encoded salt second, and refuse nothing else. What they give is
the same digest: the text reads back as the raw one, and it is what the buffer and the
hash string hold, whichever way the salt was spelled.
-/

set_option autoImplicit false

namespace Bcrypt

open Radix64 (IsSymbol symbolByte)

theorem Cost.of_nat_outside {value : Nat} (outside : ¬(4 ≤ value ∧ value ≤ 31)) :
    Cost.ofNat value = .error (.invalidCost value) := by
  rw [Cost.ofNat]
  exact dif_neg outside

theorem make_of_outside {value : Nat} (outside : ¬(4 ≤ value ∧ value ≤ 31)) (salt : Salt) :
    Hasher.make value salt = .error (.invalidCost value) := by
  rw [Hasher.make, Cost.of_nat_outside outside]
  rfl

theorem check_of_outside {value : Nat} (outside : ¬(4 ≤ value ∧ value ≤ 31))
    (saltText : List UInt8) :
    checkInputs value saltText = .error (.invalidCost value) := by
  rw [checkInputs, Cost.of_nat_outside outside]
  rfl

theorem check_of_refused_salt (cost : Cost) {saltText : List UInt8} {error : SaltError}
    (refused : Salt.decode saltText = .error error) :
    checkInputs cost.value saltText = .error (.invalidSalt error) := by
  rw [checkInputs, cost.of_nat_value, refused]
  rfl

theorem check_of_salt (cost : Cost) {saltText : List UInt8} {salt : Salt}
    (read : Salt.decode saltText = .ok salt) :
    checkInputs cost.value saltText = .ok (cost, salt) := by
  rw [checkInputs, cost.of_nat_value, read]
  rfl

section

variable {password saltText : List UInt8} {value : Nat}

theorem hash_of_refused {error : Error} (refused : checkInputs value saltText = .error error) :
    hash password value saltText = ⟨.error error, []⟩ := by
  rw [hash, refused, Outcome.of_except_error_bind]

theorem hash_into_of_refused {error : Error} (refused : checkInputs value saltText = .error error)
    (buffer : List UInt8) :
    hashInto password value saltText buffer = (⟨.error error, []⟩, buffer) := by
  rw [hashInto, refused]
  rfl

variable {cost : Cost} {salt : Salt} {digest : Digest}
  (accepted : checkInputs value saltText = .ok (cost, salt))

include accepted

theorem hash_into_of_small {buffer : List UInt8} (small : buffer.length < 31) :
    hashInto password value saltText buffer =
      (⟨.error (.bufferTooSmall 31 buffer.length), []⟩, buffer) := by
  have refused : buffer.length < Digest.encodedLength := small
  rw [hashInto, accepted]
  simp only [Outcome.of_except_ok_bind, if_pos refused, Outcome.of_except_error_bind]
  rfl

variable (digested : digestOf password cost salt = ⟨.ok digest, digestLog password.length cost⟩)

include digested

theorem hash_of_accepted :
    hash password value saltText = ⟨.ok digest.encode, digestLog password.length cost⟩ := by
  rw [hash, accepted, Outcome.of_except_ok_bind]
  simp only [digested]
  exact Outcome.bind_pure_of_ok rfl _

theorem hash_into_of_fitting {buffer : List UInt8} (fits : 31 ≤ buffer.length) :
    hashInto password value saltText buffer =
      (⟨.ok 31, digestLog password.length cost⟩, Text.bytes digest.encode ++ buffer.drop 31) := by
  have length : (Text.bytes digest.encode).length = 31 := digest.encode_length
  have roomy : ¬buffer.length < Digest.encodedLength := Nat.not_lt.mpr fits
  have encoded : ((⟨.ok digest, digestLog password.length cost⟩ : Outcome Digest) >>= fun digest =>
      (pure digest.encode : Outcome String)) =
        ⟨.ok digest.encode, digestLog password.length cost⟩ :=
    Outcome.bind_pure_of_ok rfl _
  rw [hashInto, accepted]
  simp only [Outcome.of_except_ok_bind, if_neg roomy, digested, encoded, overwrite, length]

end

/-- A number below a hundred with a leading zero where it takes one. -/
def twoDigits (value : Nat) : String := (if value < 10 then "0" else "") ++ toString value

theorem Cost.text_two_digits (cost : Cost) : cost.text = twoDigits cost.value := by
  have all : ∀ value : Fin 100,
      String.ofList [Nat.digitChar (value.val / 10), Nat.digitChar (value.val % 10)] =
        twoDigits value.val := by
    decide +kernel
  exact all ⟨cost.value, cost.value_lt⟩

/-- The digest of a password in each of its forms. The text is thirty-one symbols that
read back as the digest. A buffer begins with the text and is kept behind it; a hash
string ends with it. -/
structure Forms (password : List UInt8) (cost : Cost) (salt : Salt) (digest : Digest)
    (encoded : String) : Prop where
  raw : (digestOf password cost salt).result = .ok digest
  length : (Text.bytes encoded).length = 31
  symbols : ∀ byte ∈ Text.bytes encoded, IsSymbol byte
  reads : Digest.decode (Text.bytes encoded) = .ok digest
  text : ∀ saltText, Salt.decode saltText = .ok salt →
    (hash password cost.value saltText).result = .ok encoded
  buffer : ∀ saltText buffer, Salt.decode saltText = .ok salt → 31 ≤ buffer.length →
    (hashInto password cost.value saltText buffer).1.result = .ok 31 ∧
      (hashInto password cost.value saltText buffer).2 = Text.bytes encoded ++ buffer.drop 31
  hashString : ∃ hasher, Hasher.make cost.value salt = .ok hasher ∧
    (hasher.hash password).result =
      .ok ("$2b$" ++ twoDigits cost.value ++ "$" ++ salt.encode ++ encoded)

theorem print_text (cost : Cost) (salt : Salt) (digest : Digest) :
    HashString.print ⟨.default, cost, salt, digest⟩ =
      "$2b$" ++ twoDigits cost.value ++ "$" ++ salt.encode ++ digest.encode := by
  rw [HashString.print, cost.text_two_digits]
  rfl

theorem forms_of_digest (password : List UInt8) (cost : Cost) (salt : Salt) :
    ∃ digest encoded, Forms password cost salt digest encoded := by
  obtain ⟨digest, digested⟩ := digest_of_succeeds password cost salt
  refine ⟨digest, digest.encode, ?_, digest.encode_length, Radix64.encode_symbols _,
    digest.decode_encoded, ?_, ?_, ?_⟩
  · rw [digested]
  · intro saltText read
    rw [hash_of_accepted (check_of_salt cost read) digested]
  · intro saltText buffer read fits
    rw [hash_into_of_fitting (check_of_salt cost read) digested fits]
    exact ⟨rfl, rfl⟩
  · refine ⟨⟨cost, salt⟩, make_of_range cost.value salt cost.least_le cost.le_greatest, ?_⟩
    rw [@hasher_hash_eq password digest ⟨cost, salt⟩ digested, print_text]

theorem hash_refuses_inputs_only {password saltText : List UInt8} {value : Nat} {error : Error}
    (failed : (hash password value saltText).result = .error error) :
    error = .invalidCost value ∨ ∃ saltError, error = .invalidSalt saltError := by
  by_cases inRange : 4 ≤ value ∧ value ≤ 31
  · let cost : Cost := ⟨value, inRange.1, inRange.2⟩
    cases read : Salt.decode saltText with
    | error saltError =>
        rw [hash_of_refused (check_of_refused_salt cost read)] at failed
        exact .inr ⟨saltError, (Except.error.inj failed).symm⟩
    | ok salt =>
        obtain ⟨digest, encoded, forms⟩ := forms_of_digest password cost salt
        rw [forms.text saltText read] at failed
        contradiction
  · rw [hash_of_refused (check_of_outside inRange saltText)] at failed
    exact .inl (Except.error.inj failed).symm

/-- A cost out of range is refused first, whatever stands for the salt, and then a text
that is no salt, for the reason that reading it gives; nothing else is refused. All
other inputs have one digest, in all its forms and under all spellings of the salt. -/
theorem one_digest_in_every_form (password : List UInt8) (value : Nat) (saltText : List UInt8) :
    (¬(4 ≤ value ∧ value ≤ 31) →
      (hash password value saltText).result = .error (.invalidCost value) ∧
      (∀ buffer, hashInto password value saltText buffer =
        (⟨.error (.invalidCost value), []⟩, buffer)) ∧
      ∀ salt, Hasher.make value salt = .error (.invalidCost value)) ∧
    (∀ (least : 4 ≤ value) (greatest : value ≤ 31),
      (∀ error, Salt.decode saltText = .error error →
        (hash password value saltText).result = .error (.invalidSalt error) ∧
        ∀ buffer, hashInto password value saltText buffer =
          (⟨.error (.invalidSalt error), []⟩, buffer)) ∧
      ∀ salt, Salt.decode saltText = .ok salt → ∃ digest encoded,
        (hash password value saltText).result = .ok encoded ∧
        Forms password ⟨value, least, greatest⟩ salt digest encoded) ∧
    ∀ error, (hash password value saltText).result = .error error →
      error = .invalidCost value ∨ ∃ saltError, error = .invalidSalt saltError := by
  refine ⟨?_, ?_, ?_⟩
  · intro outside
    have refused := check_of_outside outside saltText
    refine ⟨?_, hash_into_of_refused refused, make_of_outside outside⟩
    rw [hash_of_refused refused]
  · intro least greatest
    constructor
    · intro error unread
      have refused := check_of_refused_salt ⟨value, least, greatest⟩ unread
      refine ⟨?_, hash_into_of_refused refused⟩
      rw [hash_of_refused refused]
    · intro salt read
      obtain ⟨digest, encoded, forms⟩ := forms_of_digest password ⟨value, least, greatest⟩ salt
      exact ⟨digest, encoded, forms.text saltText read, forms⟩
  · intro error failed
    exact hash_refuses_inputs_only failed

/-- A cost just out of range, a salt text of no bytes, and two spellings of one salt at
the greatest cost. -/
theorem one_digest_in_every_form_at_bounds :
    let salt : Salt :=
      ⟨#v[0x10, 0x41, 0x04, 0x10, 0x41, 0x04, 0x10, 0x41, 0x04, 0x10, 0x41, 0x04, 0x10, 0x41,
        0x04, 0x10]⟩
    let written := Text.bytes "CCCCCCCCCCCCCCCCCCCCC."
    let respelled := Text.bytes "CCCCCCCCCCCCCCCCCCCCCN"
    (¬(4 ≤ 32 ∧ 32 ≤ 31) ∧ (hash [0x61] 32 []).result = .error (.invalidCost 32)) ∧
    (4 ≤ 31 ∧ 31 ≤ 31 ∧ Salt.decode [] = .error (.length 0) ∧
      (hash [0x61] 31 []).result = .error (.invalidSalt (.length 0))) ∧
    (Salt.decode written = .ok salt ∧ Salt.decode respelled = .ok salt ∧ ∃ encoded,
      (hash [0x61] 31 respelled).result = .ok encoded ∧
      (hash [0x61] 31 written).result = .ok encoded ∧
      (hashInto [0x61] 31 written (List.replicate 31 0)).1.result = .ok 31) ∧
    ((Error.invalidCost 32 = .invalidCost 32) ∨
      ∃ saltError, Error.invalidCost 32 = .invalidSalt saltError) := by
  intro salt written respelled
  have outside : ¬(4 ≤ 32 ∧ 32 ≤ 31) := by decide
  have unread : Salt.decode [] = .error (.length 0) := by decide +kernel
  have read : Salt.decode written = .ok salt := by decide +kernel
  have respelledRead : Salt.decode respelled = .ok salt := by decide +kernel
  obtain ⟨refuses, _, onlyInputs⟩ := one_digest_in_every_form [0x61] 32 []
  obtain ⟨_, accepts, _⟩ := one_digest_in_every_form [0x61] 31 []
  obtain ⟨_, digests, _⟩ := one_digest_in_every_form [0x61] 31 respelled
  have tooGreat := (refuses outside).1
  have noSalt := (accepts (by decide) (by decide)).1 _ unread
  obtain ⟨digest, encoded, text, forms⟩ := (digests (by decide) (by decide)).2 salt respelledRead
  have fits : 31 ≤ (List.replicate 31 (0 : UInt8)).length := by decide
  exact ⟨⟨outside, tooGreat⟩, ⟨by decide, by decide, unread, noSalt.1⟩,
    ⟨read, respelledRead, encoded, text, forms.text written read,
      (forms.buffer written _ read fits).1⟩,
    onlyInputs _ tooGreat⟩

end Bcrypt
