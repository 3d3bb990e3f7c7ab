import Bcrypt.CommandLine.Run
import Bcrypt.Proofs.Hashing
import Bcrypt.Unicode.NormalForm

/-!
# From one run of the command line to another

A run that hashes a password prints the hash string as a single line. Given back to a
run that checks a password, this line tells whether both passwords have the same digest
in the form in which they were hashed. How texts are normalized does not matter for
this, only that the two passwords are prepared.
-/

set_option autoImplicit false

namespace Bcrypt.CommandLine

section

variable (normalize : String → String) (drawn : Salt) (normalized : Bool) (typed : String)

theorem prepare_bytes :
    prepare normalize false typed = Text.bytes typed ∧
      prepare normalize true typed = Text.bytes (normalize typed) :=
  ⟨rfl, rfl⟩

theorem choose_salt_of_read {saltText : String} {salt : Salt}
    (read : Salt.parse saltText = .ok salt) :
    chooseSalt drawn (some saltText) = .ok salt := by
  rw [chooseSalt, read]

theorem answer_hash_eq (hasher : Hasher) {password : List UInt8} {digest : Digest}
    (digested : digestOf password hasher.cost hasher.salt =
      ⟨.ok digest, digestLog password.length hasher.cost⟩) :
    answerHash hasher password =
      ⟨0, HashString.print ⟨.default, hasher.cost, hasher.salt, digest⟩ ++ "\n", ""⟩ := by
  rw [answerHash, hasher_hash_eq digested]

theorem hash_transcript (cost : Cost) {saltText : String} {salt : Salt} {digest : Digest}
    (read : Salt.parse saltText = .ok salt)
    (digested : digestOf (prepare normalize normalized typed) cost salt =
      ⟨.ok digest, digestLog (prepare normalize normalized typed).length cost⟩) :
    (start normalize drawn (.hash cost.value (some saltText) normalized)).transcript typed =
      ⟨0, HashString.print ⟨.default, cost, salt, digest⟩ ++ "\n", "Enter password to hash: "⟩ := by
  have made := make_of_range cost.value salt cost.least_le cost.le_greatest
  rw [start, startHash, choose_salt_of_read drawn read]
  simp only [made, Step.transcript, answer_hash_eq ⟨cost, salt⟩ digested]
  rfl

def answered (matched : Bool) : Exit :=
  if matched then ⟨0, "match\n", "Enter password to verify: "⟩
  else ⟨1, "mismatch\n", "Enter password to verify: "⟩

theorem verify_transcript {hashed : String} {parts : HashString} {digest : Digest}
    (read : HashString.parse hashed = .ok parts)
    (digested : digestOf (prepare normalize normalized typed) parts.cost parts.salt =
      ⟨.ok digest, digestLog (prepare normalize normalized typed).length parts.cost⟩) :
    (start normalize drawn (.verify hashed normalized)).transcript typed =
      answered (digest = parts.digest) := by
  rw [start, startVerify, Step.transcript, answerVerify, verify_of_parts read digested,
    Outcome.within]
  cases decide (digest = parts.digest) <;> rfl

end

/-- A line of sixty characters, the hash string with this cost, salt and digest. Its
salt is spelled as salts are written. -/
structure HashLine (line : String) (cost : Cost) (salt : Salt) (digest : Digest) : Prop where
  length : line.length = 60
  single : '\n' ∉ line.toList
  text : line = "$2b$" ++ twoDigits cost.value ++ "$" ++ salt.encode ++ digest.encode
  reads : HashString.parse line = .ok ⟨.v2b, cost, salt, digest⟩

theorem hash_line_of_print (cost : Cost) (salt : Salt) (digest : Digest) :
    HashLine (HashString.print ⟨.default, cost, salt, digest⟩) cost salt digest :=
  ⟨HashString.print_character_count _, HashString.line_break_not_in_print _,
    print_text cost salt digest, HashString.parse_print _⟩

theorem hash_line_answers (normalize : String → String) (drawn : Salt) (normalized : Bool)
    (typed : String) {line : String} {cost : Cost} {salt : Salt} {digest : Digest}
    (hashLine : HashLine line cost salt digest) :
    ∃ typedDigest,
      (digestOf (prepare normalize normalized typed) cost salt).result = .ok typedDigest ∧
      (start normalize drawn (.verify line normalized)).transcript typed =
        answered (typedDigest = digest) := by
  rcases digest_of_succeeds (prepare normalize normalized typed) cost salt with
    ⟨typedDigest, digested⟩
  refine ⟨typedDigest, by rw [digested], ?_⟩
  exact verify_transcript normalize drawn normalized typed hashLine.reads digested

/-- Whatever normalization does, a run that hashes a password under a valid cost and any
spelling of a salt prints a single line, a hash string. A run that is given this line
ends with a match for exactly the passwords whose prepared form has the same digest,
among them all that are prepared to the same bytes, and with a mismatch for all
others. -/
theorem printed_line_tells_passwords (normalize : String → String) (drawn : Salt) {value : Nat}
    (least : 4 ≤ value) (greatest : value ≤ 31) {saltText : String} {salt : Salt}
    (read : Salt.parse saltText = .ok salt) (normalized : Bool) (typed : String) :
    let cost : Cost := ⟨value, least, greatest⟩
    (∀ text, prepare normalize false text = Text.bytes text ∧
      prepare normalize true text = Text.bytes (normalize text)) ∧
    ∃ line digest, HashLine line cost salt digest ∧
      (digestOf (prepare normalize normalized typed) cost salt).result = .ok digest ∧
      (start normalize drawn (.hash value (some saltText) normalized)).transcript typed =
        ⟨0, line ++ "\n", "Enter password to hash: "⟩ ∧
      ∀ laterDrawn laterNormalized laterTyped, ∃ laterDigest,
        (digestOf (prepare normalize laterNormalized laterTyped) cost salt).result =
          .ok laterDigest ∧
        (start normalize laterDrawn (.verify line laterNormalized)).transcript laterTyped =
          answered (laterDigest = digest) ∧
        (prepare normalize laterNormalized laterTyped = prepare normalize normalized typed →
          (start normalize laterDrawn (.verify line laterNormalized)).transcript laterTyped =
            answered true) := by
  intro cost
  rcases digest_of_succeeds (prepare normalize normalized typed) cost salt with ⟨digest, digested⟩
  have hashLine := hash_line_of_print cost salt digest
  have succeeded :
      (digestOf (prepare normalize normalized typed) cost salt).result = .ok digest := by
    rw [digested]
  refine ⟨prepare_bytes normalize, _, digest, hashLine, succeeded,
    hash_transcript normalize drawn normalized typed cost read digested, ?_⟩
  intro laterDrawn laterNormalized laterTyped
  rcases hash_line_answers normalize laterDrawn laterNormalized laterTyped hashLine with
    ⟨laterDigest, laterSucceeded, answer⟩
  refine ⟨laterDigest, laterSucceeded, answer, ?_⟩
  -- The same bytes under the same cost and salt have one digest.
  intro same
  rw [same, succeeded] at laterSucceeded
  rw [answer, Except.ok.inj laterSucceeded, decide_eq_true rfl]

/-- A salt with its spare bits set, and a password typed with an accent of its own,
normalized both times. -/
theorem printed_line_tells_passwords_with_accent :
    let salt : Salt :=
      ⟨#v[0x10, 0x41, 0x04, 0x10, 0x41, 0x04, 0x10, 0x41, 0x04, 0x10, 0x41, 0x04, 0x10, 0x41,
        0x04, 0x10]⟩
    let drawn : Salt := ⟨Vector.replicate 16 0⟩
    4 ≤ 12 ∧ 12 ≤ 31 ∧ Salt.parse "CCCCCCCCCCCCCCCCCCCCCN" = .ok salt ∧
      ∃ line digest, HashLine line ⟨12, by decide, by decide⟩ salt digest ∧
        (start Unicode.normalize drawn (.hash 12 (some "CCCCCCCCCCCCCCCCCCCCCN") true)).transcript
            "cafe\u0301" =
          ⟨0, line ++ "\n", "Enter password to hash: "⟩ ∧
        (start Unicode.normalize drawn (.verify line true)).transcript "cafe\u0301" =
          ⟨0, "match\n", "Enter password to verify: "⟩ := by
  intro salt drawn
  have least : 4 ≤ 12 := by decide
  have greatest : 12 ≤ 31 := by decide
  have read : Salt.parse "CCCCCCCCCCCCCCCCCCCCCN" = .ok salt := by decide +kernel
  rcases printed_line_tells_passwords Unicode.normalize drawn least greatest read true
      "cafe\u0301" with
    ⟨_, line, digest, hashLine, _, printed, answers⟩
  rcases answers drawn true "cafe\u0301" with ⟨_, _, _, accepted⟩
  exact ⟨least, greatest, read, line, digest, hashLine, printed, accepted rfl⟩

end Bcrypt.CommandLine
