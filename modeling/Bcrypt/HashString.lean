import Bcrypt.Cost
import Bcrypt.Digest
import Bcrypt.Salt
import Bcrypt.Text.Quoted

/-!
# Hash strings

A hash string keeps everything that a later check needs: `$2b$10$`, then the 22 symbols
of the salt and the 31 symbols of the digest. Salt and digest are told apart by count
alone.
-/

set_option autoImplicit false

namespace Bcrypt

/-- The version tags in use. They record how older programs treated their input; the
digest is the same for all. -/
inductive Version where
  | v2a
  | v2b
  | v2y
  deriving DecidableEq

namespace Version

def tag : Version → String
  | .v2a => "2a"
  | .v2b => "2b"
  | .v2y => "2y"

def default : Version := .v2b

def parse (text : String) : Except Error Version :=
  if text = "2a" then .ok .v2a
  else if text = "2b" then .ok .v2b
  else if text = "2y" then .ok .v2y
  else .error (.unsupportedVersion text)

end Version

@[ext] structure HashString where
  version : Version
  cost : Cost
  salt : Salt
  digest : Digest
  deriving DecidableEq

namespace HashString

def bodyLength : Nat := Salt.encodedLength + Digest.encodedLength

def length : Nat := 7 + bodyLength

def cut : List Char → Option (List Char × List Char)
  | [] => none
  | character :: rest =>
      if character = '$' then some ([], rest)
      else (cut rest).map fun (before, after) => (character :: before, after)

/-- The fields of a hash string: version, cost, and the rest, which may hold further separators. -/
def fields? (text : List Char) : Option (List Char × List Char × List Char) := do
  let (_, text) ← cut text
  let (version, text) ← cut text
  let (cost, body) ← cut text
  return (version, cost, body)

def parseVersion (field : List Char) : Except Error Version :=
  if (Text.utf8 field).length = 2 ∧ field.head? = some '2' then
    Version.parse (String.ofList field)
  else
    .error (.malformedHash ("invalid prefix " ++ Text.Quoted.quote (String.ofList field)))

/-- A cost is always written as two decimal digits, so that its place in the text is fixed. -/
def parseCost (field : List Char) : Except Error Cost :=
  if field.length = 2 ∧ field.all Char.isDigit then
    Cost.ofNat (Nat.ofDigitChars 10 field 0)
  else
    .error (.malformedHash ("invalid cost field " ++ Text.Quoted.quote (String.ofList field)))

/-- Salt and digest, in bytes, so that a character outside ASCII counts for more than one. -/
def parseBody (body : List UInt8) : Except Error (Salt × Digest) :=
  if body.length = bodyLength then
    match Salt.decode (body.take Salt.encodedLength) with
    | .error error => .error (.invalidSalt error)
    | .ok salt => (Digest.decode (body.drop Salt.encodedLength)).map fun digest => (salt, digest)
  else
    .error (.malformedHash ("salt and digest are " ++ toString body.length ++
      " characters, expected " ++ toString bodyLength))

/-- Reads a hash string field by field; the first field that is wrong decides the error. -/
def parse (text : String) : Except Error HashString :=
  if (Text.bytes text).length < 4 ∨ text.toList.head? ≠ some '$' then
    .error (.malformedHash "hash string too short")
  else
    match fields? text.toList with
    | none => .error (.malformedHash "missing '$' separators")
    | some (versionField, costField, body) => do
        let version ← parseVersion versionField
        let cost ← parseCost costField
        let (salt, digest) ← parseBody (Text.utf8 body)
        return ⟨version, cost, salt, digest⟩

def print (parts : HashString) : String :=
  "$" ++ parts.version.tag ++ "$" ++ parts.cost.text ++ "$" ++ parts.salt.encode ++
    parts.digest.encode

end HashString

end Bcrypt
