import Bcrypt.Proofs.CommandLine

/-!
# What the exit status tells

A run that hashes ends at once if the salt does not read, or else if the cost is out of
range. If neither is so it asks for a password, and from there on nothing can fail. A
run that checks asks first, and what the verification answers, an error included,
decides its status and its output: zero stands for a match and for nothing else.
-/

set_option autoImplicit false

namespace Bcrypt.CommandLine

theorem run_of_request {parser : List String → Option String → Option Request}
    (normalize : String → String) (drawn : Salt) {words : List String}
    {costVariable : Option String} {request : Request}
    (accepted : parser words costVariable = some request) :
    run? parser normalize drawn words costVariable = some (start normalize drawn request) := by
  rw [run?, accepted, Option.map_some]

def AcceptableSalt (salt : Option String) : Prop :=
  ∀ text ∈ salt, ∃ read, Salt.parse text = .ok read

def Chosen (drawn : Salt) (salt : Option String) (chosen : Salt) : Prop :=
  match salt with
  | none => chosen = drawn
  | some text => Salt.parse text = .ok chosen

/-- What stands in the way of a hash, and how the run ends then. A cost is objected to
only if the salt is not. -/
inductive HashRefusal (cost : Nat) : Option String → Exit → Prop where
  | salt {text : String} {error : SaltError} (unread : Salt.parse text = .error error) :
      HashRefusal cost (some text) ⟨1, "",
        "Error: Invalid salt: " ++ text ++ "\n\nCaused by:\n    " ++ error.message ++ "\n"⟩
  | cost {salt : Option String} (acceptable : AcceptableSalt salt)
      (outside : ¬(4 ≤ cost ∧ cost ≤ 31)) :
      HashRefusal cost salt
        ⟨1, "", "Error: invalid cost " ++ toString cost ++ ": must be between 4 and 31\n"⟩

/-- The run asks for a password. Whatever is typed, it writes the hash string of the
prepared bytes as a line and ends well. -/
def Prints (prepared : String → List UInt8) (cost : Cost) (salt : Salt) (step : Step) : Prop :=
  ∃ resume, step = .ask "Enter password to hash: " resume ∧
    ∀ typed, ∃ line digest, HashLine line cost salt digest ∧
      (digestOf (prepared typed) cost salt).result = .ok digest ∧
      resume typed = ⟨0, line ++ "\n", ""⟩

/-- The run ends without a question exactly if something stands in the way, and prints
exactly if nothing does, under the cost that is asked for and the chosen salt. -/
structure HashRun (prepared : String → List UInt8) (drawn : Salt) (cost : Nat)
    (salt : Option String) (step : Step) : Prop where
  refused_iff : ∀ exit, step = .finish exit ↔ HashRefusal cost salt exit
  prints_iff : (∃ bounded chosen, Prints prepared bounded chosen step) ↔
    AcceptableSalt salt ∧ 4 ≤ cost ∧ cost ≤ 31
  prints_for : ∀ bounded chosen, Prints prepared bounded chosen step →
    bounded.value = cost ∧ Chosen drawn salt chosen

theorem acceptable_of_chosen {drawn chosen : Salt} {salt : Option String}
    (choice : Chosen drawn salt chosen) : AcceptableSalt salt := by
  rintro text ⟨⟩
  exact ⟨chosen, choice⟩

theorem chosen_of_acceptable (drawn : Salt) {salt : Option String}
    (acceptable : AcceptableSalt salt) : ∃ chosen, Chosen drawn salt chosen := by
  cases salt with
  | none => exact ⟨drawn, rfl⟩
  | some text => exact acceptable text rfl

theorem choose_salt_of_chosen {drawn chosen : Salt} {salt : Option String}
    (choice : Chosen drawn salt chosen) : chooseSalt drawn salt = .ok chosen := by
  cases salt with
  | none => exact congrArg Except.ok choice.symm
  | some text => exact choose_salt_of_read drawn choice

theorem chosen_or_unread (drawn : Salt) (salt : Option String) :
    (∃ chosen, Chosen drawn salt chosen) ∨
      ∃ text error, salt = some text ∧ Salt.parse text = .error error := by
  cases salt with
  | none => exact .inl ⟨drawn, rfl⟩
  | some text =>
      cases parsed : Salt.parse text with
      | error error => exact .inr ⟨text, error, rfl, parsed⟩
      | ok read => exact .inl ⟨read, parsed⟩

theorem printed_or_refused (drawn : Salt) (cost : Nat) (salt : Option String) :
    (∃ bounded : Cost, bounded.value = cost ∧ ∃ chosen, Chosen drawn salt chosen) ∨
      ∃ exit, HashRefusal cost salt exit := by
  rcases chosen_or_unread drawn salt with ⟨chosen, choice⟩ | ⟨text, error, rfl, unread⟩
  · by_cases inRange : 4 ≤ cost ∧ cost ≤ 31
    · exact .inl ⟨⟨cost, inRange.1, inRange.2⟩, rfl, chosen, choice⟩
    · exact .inr ⟨_, .cost (acceptable_of_chosen choice) inRange⟩
  · exact .inr ⟨_, .salt unread⟩

theorem HashRefusal.not_printed {cost : Nat} {salt : Option String} {exit : Exit}
    (refusal : HashRefusal cost salt exit) : ¬(AcceptableSalt salt ∧ 4 ≤ cost ∧ cost ≤ 31) := by
  rintro ⟨acceptable, inRange⟩
  cases refusal with
  | @salt text error unread =>
      rcases acceptable text rfl with ⟨read, parsed⟩
      rw [unread] at parsed
      contradiction
  | cost _ outside => exact outside inRange

/-- A printed line tells the cost and the salt under which it was made. -/
theorem Prints.same {prepared : String → List UInt8} {cost other : Cost} {salt otherSalt : Salt}
    {step : Step} (prints : Prints prepared cost salt step)
    (otherPrints : Prints prepared other otherSalt step) : cost = other ∧ salt = otherSalt := by
  rcases prints with ⟨resume, rfl, lines⟩
  rcases otherPrints with ⟨_, sameStep, otherLines⟩
  obtain rfl := (Step.ask.inj sameStep).2
  rcases lines "" with ⟨line, digest, hashLine, _, ended⟩
  rcases otherLines "" with ⟨otherLine, otherDigest, otherHashLine, _, otherEnded⟩
  have sameOutput : line ++ "\n" = otherLine ++ "\n" :=
    congrArg Exit.output (ended.symm.trans otherEnded)
  obtain rfl := (String.append_left_inj _).mp sameOutput
  have sameParts := Except.ok.inj (hashLine.reads.symm.trans otherHashLine.reads)
  exact ⟨congrArg HashString.cost sameParts, congrArg HashString.salt sameParts⟩

theorem cause_lines_none : causeLines [] = "" :=
  rfl

theorem cause_lines_one (cause : String) : causeLines [cause] = "\n\nCaused by:\n    " ++ cause :=
  rfl

theorem unread_report (text : String) (error : SaltError) :
    fail ("Invalid salt: " ++ text) [error.message] = ⟨1, "",
      "Error: Invalid salt: " ++ text ++ "\n\nCaused by:\n    " ++ error.message ++ "\n"⟩ := by
  rw [fail, cause_lines_one, ← String.append_assoc, ← String.append_assoc]
  rfl

theorem cost_report (cost : Nat) :
    fail (Error.invalidCost cost).message (Error.invalidCost cost).causes =
      ⟨1, "", "Error: invalid cost " ++ toString cost ++ ": must be between 4 and 31\n"⟩ := by
  have message : (Error.invalidCost cost).message =
      "invalid cost " ++ toString cost ++ ": must be between " ++ toString Limits.leastCost ++
        " and " ++ toString Limits.greatestCost := rfl
  have causes : (Error.invalidCost cost).causes = [] := rfl
  have least : toString Limits.leastCost = "4" := rfl
  have greatest : toString Limits.greatestCost = "31" := rfl
  have text : "Error: " ++ ("invalid cost " ++ toString cost ++ ": must be between " ++ "4" ++
      " and " ++ "31") ++ "" ++ "\n" =
        "Error: invalid cost " ++ toString cost ++ ": must be between 4 and 31\n" := by
    apply String.toList_injective
    simp
  rw [fail, message, causes, cause_lines_none, least, greatest, text]

section

variable (normalize : String → String) (drawn : Salt) (normalized : Bool)

theorem start_hash_of_unread (cost : Nat) {text : String} {error : SaltError}
    (unread : Salt.parse text = .error error) :
    startHash normalize drawn cost (some text) normalized = .finish ⟨1, "",
      "Error: Invalid salt: " ++ text ++ "\n\nCaused by:\n    " ++ error.message ++ "\n"⟩ := by
  rw [startHash, chooseSalt, unread, ← unread_report]

theorem start_hash_of_outside {cost : Nat} {salt : Option String}
    (acceptable : AcceptableSalt salt) (outside : ¬(4 ≤ cost ∧ cost ≤ 31)) :
    startHash normalize drawn cost salt normalized = .finish
      ⟨1, "", "Error: invalid cost " ++ toString cost ++ ": must be between 4 and 31\n"⟩ := by
  rcases chosen_of_acceptable drawn acceptable with ⟨chosen, choice⟩
  rw [startHash, choose_salt_of_chosen choice]
  simp only [make_of_outside outside, cost_report]

theorem start_hash_prints (cost : Cost) {salt : Option String} {chosen : Salt}
    (choice : Chosen drawn salt chosen) :
    Prints (prepare normalize normalized) cost chosen
      (startHash normalize drawn cost.value salt normalized) := by
  rw [startHash, choose_salt_of_chosen choice]
  simp only [make_of_range cost.value chosen cost.least_le cost.le_greatest]
  refine ⟨_, rfl, ?_⟩
  intro typed
  rcases digest_of_succeeds (prepare normalize normalized typed) cost chosen with
    ⟨digest, digested⟩
  refine ⟨_, digest, hash_line_of_print cost chosen digest, ?_,
    answer_hash_eq ⟨cost, chosen⟩ digested⟩
  rw [digested]

theorem start_hash_run (cost : Nat) (salt : Option String) :
    HashRun (prepare normalize normalized) drawn cost salt
      (startHash normalize drawn cost salt normalized) := by
  have refused (exit : Exit) (refusal : HashRefusal cost salt exit) :
      startHash normalize drawn cost salt normalized = .finish exit := by
    cases refusal with
    | salt unread => exact start_hash_of_unread normalize drawn normalized cost unread
    | cost acceptable outside =>
        exact start_hash_of_outside normalize drawn normalized acceptable outside
  rcases printed_or_refused drawn cost salt with ⟨bounded, rfl, chosen, choice⟩ | ⟨exit, refusal⟩
  · have prints := start_hash_prints normalize drawn normalized bounded choice
    have acceptable := acceptable_of_chosen choice
    refine ⟨fun exit => ⟨?_, refused exit⟩, ?_, ?_⟩
    · intro ended
      rcases prints with ⟨resume, asked, _⟩
      rw [asked] at ended
      contradiction
    · exact iff_of_true ⟨bounded, chosen, prints⟩
        ⟨acceptable, bounded.least_le, bounded.le_greatest⟩
    · intro other otherSalt otherPrints
      rcases prints.same otherPrints with ⟨rfl, rfl⟩
      exact ⟨rfl, choice⟩
  · have ended := refused exit refusal
    have unprinted (bounded : Cost) (chosen : Salt) :
        ¬Prints (prepare normalize normalized) bounded chosen
          (startHash normalize drawn cost salt normalized) := by
      rintro ⟨resume, asked, _⟩
      rw [ended] at asked
      contradiction
    refine ⟨fun other => ⟨?_, refused other⟩, iff_of_false ?_ refusal.not_printed, ?_⟩
    · intro same
      rw [ended] at same
      cases same
      exact refusal
    · rintro ⟨bounded, chosen, prints⟩
      exact unprinted bounded chosen prints
    · intro bounded chosen prints
      exact absurd prints (unprinted bounded chosen)

end

structure Tells (result : Except Error Bool) (exit : Exit) : Prop where
  zero_iff : exit.status = 0 ↔ result = .ok true
  one_iff : exit.status = 1 ↔ result ≠ .ok true
  match_iff : exit.output = "match\n" ↔ result = .ok true
  mismatch_iff : exit.output = "mismatch\n" ↔ result = .ok false
  silent_iff : exit.output = "" ↔ ∃ error, result = .error error

theorem answer_verify_tells (hashed : String) (password : List UInt8) :
    Tells (verify password hashed).result (answerVerify hashed password) := by
  rw [answerVerify]
  rcases (verify password hashed).result with error | matched
  · constructor <;> simp [fail]
  · cases matched
    · constructor <;> simp
    · constructor <;> simp

/-- Whatever parser accepts the words: a command line that asks for a hash is refused
for its salt, or else for its cost, without a question and without output, and in every
other case asks, prints the hash string and ends with zero. One that asks for a check
always asks for the password, and then its status and its output tell what the
verification of the prepared password answers. -/
theorem exit_status_tells_answer (parser : List String → Option String → Option Request)
    (normalize : String → String) (drawn : Salt) (words : List String)
    (costVariable : Option String) :
    (∀ typed, prepare normalize false typed = Text.bytes typed ∧
      prepare normalize true typed = Text.bytes (normalize typed)) ∧
    (∀ cost salt normalized, parser words costVariable = some (.hash cost salt normalized) →
      ∃ step, run? parser normalize drawn words costVariable = some step ∧
        HashRun (prepare normalize normalized) drawn cost salt step) ∧
    ∀ hashed normalized, parser words costVariable = some (.verify hashed normalized) →
      ∃ resume, run? parser normalize drawn words costVariable =
          some (.ask "Enter password to verify: " resume) ∧
        ∀ typed, Tells (verify (prepare normalize normalized typed) hashed).result
          (resume typed) := by
  refine ⟨prepare_bytes normalize, ?_, ?_⟩
  · intro cost salt normalized accepted
    exact ⟨_, run_of_request normalize drawn accepted,
      start_hash_run normalize drawn normalized cost salt⟩
  · intro hashed normalized accepted
    refine ⟨_, run_of_request normalize drawn accepted, ?_⟩
    intro typed
    exact answer_verify_tells hashed (prepare normalize normalized typed)

/-- A salt that does not read beside a cost that is too small, a cost that is too great
for a drawn salt, the greatest cost from the environment, and a text that is no hash
string. -/
theorem exit_status_tells_each_objection :
    let drawn : Salt := ⟨Vector.replicate 16 0⟩
    let run := run? request? Unicode.normalize drawn
    let bothBad := ["hash", "--cost", "3", "--salt", "x"]
    let badCost := ["--nfkc", "hash", "-c=32"]
    let accepted := ["hash", "-sCCCCCCCCCCCCCCCCCCCCCN"]
    let unreadable := ["verify", "--nfkc", "$2a"]
    (request? bothBad none = some (.hash 3 (some "x") false) ∧
      run bothBad none = some (.finish ⟨1, "", "Error: Invalid salt: " ++ "x" ++
        "\n\nCaused by:\n    " ++ (SaltError.encoding (.invalidLength 1)).message ++ "\n"⟩)) ∧
    (request? badCost none = some (.hash 32 none true) ∧
      run badCost none = some (.finish ⟨1, "", "Error: invalid cost " ++ toString 32 ++
        ": must be between 4 and 31\n"⟩)) ∧
    (request? accepted (some "31") = some (.hash 31 (some "CCCCCCCCCCCCCCCCCCCCCN") false) ∧
      ∃ step salt, run accepted (some "31") = some step ∧
        Salt.parse "CCCCCCCCCCCCCCCCCCCCCN" = .ok salt ∧
        Prints Text.bytes ⟨31, by decide, by decide⟩ salt step) ∧
    (request? unreadable none = some (.verify "$2a" true) ∧
      ∃ resume, run unreadable none = some (.ask "Enter password to verify: " resume) ∧
        ∀ typed, (resume typed).status = 1 ∧ (resume typed).output = "") := by
  intro drawn run bothBad badCost accepted unreadable
  have bothRequest : request? bothBad none = some (.hash 3 (some "x") false) := by decide +kernel
  have costRequest : request? badCost none = some (.hash 32 none true) := by decide +kernel
  have hashRequest : request? accepted (some "31") =
      some (.hash 31 (some "CCCCCCCCCCCCCCCCCCCCCN") false) := by
    decide +kernel
  have verifyRequest : request? unreadable none = some (.verify "$2a" true) := by decide +kernel
  have tells := exit_status_tells_answer request? Unicode.normalize drawn
  refine ⟨⟨bothRequest, ?_⟩, ⟨costRequest, ?_⟩, ⟨hashRequest, ?_⟩, verifyRequest, ?_⟩
  · rcases (tells bothBad none).2.1 _ _ _ bothRequest with ⟨step, ran, answer⟩
    have unread : Salt.parse "x" = .error (.encoding (.invalidLength 1)) := by decide +kernel
    exact ran.trans (congrArg some ((answer.refused_iff _).mpr (.salt unread)))
  · rcases (tells badCost none).2.1 _ _ _ costRequest with ⟨step, ran, answer⟩
    have outside : ¬(4 ≤ 32 ∧ 32 ≤ 31) := by decide
    have choice : Chosen drawn none drawn := rfl
    have refusal := HashRefusal.cost (acceptable_of_chosen choice) outside
    exact ran.trans (congrArg some ((answer.refused_iff _).mpr refusal))
  · rcases (tells accepted (some "31")).2.1 _ _ _ hashRequest with ⟨step, ran, answer⟩
    let salt : Salt := ⟨#v[0x10, 0x41, 0x04, 0x10, 0x41, 0x04, 0x10, 0x41, 0x04, 0x10, 0x41, 0x04,
      0x10, 0x41, 0x04, 0x10]⟩
    have parsed : Salt.parse "CCCCCCCCCCCCCCCCCCCCCN" = .ok salt := by decide +kernel
    have choice : Chosen drawn (some "CCCCCCCCCCCCCCCCCCCCCN") salt := parsed
    have acceptable := acceptable_of_chosen choice
    rcases answer.prints_iff.mpr ⟨acceptable, by decide, by decide⟩ with ⟨cost, chosen, prints⟩
    rcases answer.prints_for cost chosen prints with ⟨thirtyOne, read⟩
    obtain rfl : cost = ⟨31, by decide, by decide⟩ := Cost.ext thirtyOne
    refine ⟨step, chosen, ran, read, ?_⟩
    have typedBytes : prepare Unicode.normalize false = Text.bytes :=
      funext fun typed => ((tells accepted (some "31")).1 typed).1
    rw [← typedBytes]
    exact prints
  · rcases (tells unreadable none).2.2 _ _ verifyRequest with ⟨resume, ran, answers⟩
    have unread : HashString.parse "$2a" = .error (.malformedHash "hash string too short") := by
      decide +kernel
    refine ⟨resume, ran, ?_⟩
    intro typed
    have answer := answers typed
    rw [verify_of_error _ unread] at answer
    exact ⟨answer.one_iff.mpr (by simp), answer.silent_iff.mpr ⟨_, rfl⟩⟩

end Bcrypt.CommandLine
