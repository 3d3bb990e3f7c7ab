import Bcrypt.CommandLine.Arguments
import Bcrypt.Verification

/-!
# Runs of the command line

A run ends at once, or asks for a password and ends when it is typed. What it prints and
how it ends is a value, so that the outer layer has only to show it. Log events of a
run, such as that a password is normalized, are shown only if the environment asks for
them and are left out here.
-/

set_option autoImplicit false

namespace Bcrypt.CommandLine

@[ext] structure Exit where
  status : Nat
  output : String
  diagnostics : String
  deriving DecidableEq

inductive Step where
  | finish (exit : Exit)
  | ask (prompt : String) (resume : String → Exit)

/-- The lines that tell the causes of an error. A cause is numbered only if there are several. -/
def causeLines : List String → String
  | [] => ""
  | [cause] => "\n\nCaused by:\n    " ++ cause
  | causes =>
      "\n\nCaused by:" ++
        String.join ((causes.zipIdx).map fun (cause, index) =>
          "\n" ++ String.ofList (List.replicate (5 - (toString index).length) ' ') ++
            toString index ++ ": " ++ cause)

def fail (message : String) (causes : List String) : Exit :=
  ⟨1, "", "Error: " ++ message ++ causeLines causes ++ "\n"⟩

def prepare (normalize : String → String) (normalized : Bool) (typed : String) : List UInt8 :=
  Text.bytes (if normalized then normalize typed else typed)

def chooseSalt (drawn : Salt) : Option String → Except Exit Salt
  | none => .ok drawn
  | some text =>
      match Salt.parse text with
      | .ok salt => .ok salt
      | .error error => .error (fail ("Invalid salt: " ++ text) [error.message])

def answerHash (hasher : Hasher) (password : List UInt8) : Exit :=
  match (hasher.hash password).result with
  | .ok hashed => ⟨0, hashed ++ "\n", ""⟩
  | .error error => fail error.message error.causes

/-- Hashes a password. The salt is looked at before the cost, and no password is asked
for if one of them is bad. -/
def startHash (normalize : String → String) (drawn : Salt) (cost : Nat) (salt : Option String)
    (normalized : Bool) : Step :=
  match chooseSalt drawn salt with
  | .error exit => .finish exit
  | .ok salt =>
      match Hasher.make cost salt with
      | .error error => .finish (fail error.message error.causes)
      | .ok hasher =>
          .ask "Enter password to hash: " fun typed =>
            answerHash hasher (prepare normalize normalized typed)

def answerVerify (hashed : String) (password : List UInt8) : Exit :=
  match (verify password hashed).result with
  | .ok true => ⟨0, "match\n", ""⟩
  | .ok false => ⟨1, "mismatch\n", ""⟩
  | .error error => fail ("Failed to check against " ++ hashed) (error.message :: error.causes)

/-- Checks a password. The hash string is looked at only when the password has been typed. -/
def startVerify (normalize : String → String) (hashed : String) (normalized : Bool) : Step :=
  .ask "Enter password to verify: " fun typed =>
    answerVerify hashed (prepare normalize normalized typed)

def versionText : String := "bcrypt-core 0.1.0\n"

def usage : String :=
  "Usage: bcrypt-core [--nfkc] hash [-c|--cost N] [-s|--salt SALT]\n" ++
  "       bcrypt-core [--nfkc] verify HASH\n" ++
  "       bcrypt-core --version\n"

/-- The beginning of a run. Texts are normalized by the given function, and a salt was
drawn in case one is needed. -/
def start (normalize : String → String) (drawn : Salt) : Request → Step
  | .hash cost salt normalized => startHash normalize drawn cost salt normalized
  | .verify hashed normalized => startVerify normalize hashed normalized
  | .version => .finish ⟨0, versionText, ""⟩
  | .help => .finish ⟨0, usage, ""⟩

def run? (parser : List String → Option String → Option Request) (normalize : String → String)
    (drawn : Salt) (words : List String) (costVariable : Option String) : Option Step :=
  (parser words costVariable).map (start normalize drawn)

namespace Step

def transcript (typed : String) : Step → Exit
  | finish exit => exit
  | ask prompt resume =>
      { resume typed with diagnostics := prompt ++ (resume typed).diagnostics }

end Step

def refused : Exit := ⟨2, "", usage⟩

end Bcrypt.CommandLine
