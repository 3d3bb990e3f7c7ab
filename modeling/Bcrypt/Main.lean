import Bcrypt.CommandLine.Run
import Bcrypt.Unicode.NormalForm

/-!
# The command line

The program hashes a password that is typed, or checks one against a hash string.
-/

set_option autoImplicit false

namespace Bcrypt.CommandLine

def drawSalt : IO Salt := do
  let bytes ← IO.getRandomBytes 16
  match Salt.ofList? bytes.toList with
  | some salt => return salt
  | none => throw (IO.userError "no random bytes")

def readPassword : IO String := do
  let line ← (← IO.getStdin).getLine
  return ((line.dropEndWhile (· == '\n')).dropEndWhile (· == '\r')).toString

def display (exit : Exit) : IO UInt32 := do
  IO.print exit.output
  IO.eprint exit.diagnostics
  return exit.status.toUInt32

end Bcrypt.CommandLine

open Bcrypt.CommandLine in
def main (words : List String) : IO UInt32 := do
  match run? request? Bcrypt.Unicode.normalize (← drawSalt) words (← IO.getEnv "BCRYPT_COST") with
  | none => display refused
  | some (.finish exit) => display exit
  | some (.ask prompt resume) => do
      IO.eprint prompt
      (← IO.getStderr).flush
      display (resume (← readPassword))
