import Bcrypt.Verification

/-!
# Runs of a hasher

A session holds one hasher and answers one operation after another. Only a new cost and
salt change the hasher, and only if they are accepted.
-/

set_option autoImplicit false

namespace Bcrypt

namespace Session

inductive Operation where
  | renew (cost : Nat) (salt : Salt)
  | hash (password : List UInt8)
  | verify (password : List UInt8) (hashed : String)
  deriving DecidableEq

inductive Reply where
  | renewed
  | hashed (text : String)
  | checked (matched : Bool)
  deriving DecidableEq

def step (hasher : Hasher) : Operation → Outcome Reply × Hasher
  | .renew cost salt =>
      match Hasher.make cost salt with
      | .error error => (Outcome.ofExcept (.error error), hasher)
      | .ok renewed => (Outcome.ofExcept (.ok .renewed), renewed)
  | .hash password => (.hashed <$> hasher.hash password, hasher)
  | .verify password hashed => (.checked <$> hasher.verify password hashed, hasher)

def run (hasher : Hasher) : List Operation → List (Outcome Reply)
  | [] => []
  | operation :: rest =>
      let (reply, hasher) := step hasher operation
      reply :: run hasher rest

end Session

end Bcrypt
