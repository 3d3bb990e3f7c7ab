import Bcrypt.Error.Inspection
import Bcrypt.Main
import Bcrypt.Session
import Bcrypt.Proofs.ByteStream
import Bcrypt.Proofs.Blowfish.Rounds
import Bcrypt.Proofs.Blowfish.Inversion
import Bcrypt.Proofs.Blowfish.Rekeying
import Bcrypt.Proofs.Blowfish.KeyStream
import Bcrypt.Proofs.Blowfish.KeyWords
import Bcrypt.Proofs.Blowfish.Expansion
import Bcrypt.Proofs.Blowfish.Chain
import Bcrypt.Proofs.Blowfish.SaltSeparation
import Bcrypt.Proofs.Blowfish.BlockStream
import Bcrypt.Proofs.Blowfish.RoundSteps
import Bcrypt.Proofs.Blowfish.InPlace
import Bcrypt.Proofs.PasswordDigest
import Bcrypt.Proofs.Radix64
import Bcrypt.Proofs.Radix64.Reading
import Bcrypt.Proofs.Radix64.Rewriting
import Bcrypt.Proofs.Radix64.Refusal
import Bcrypt.Proofs.Radix64.BitString
import Bcrypt.Proofs.Radix64.FixedSize
import Bcrypt.Proofs.HashString
import Bcrypt.Proofs.HashString.Fields
import Bcrypt.Proofs.HashString.Refusal
import Bcrypt.Proofs.HashString.Language
import Bcrypt.Proofs.HashString.Reformatting
import Bcrypt.Proofs.HashString.Respelling
import Bcrypt.Proofs.Verification
import Bcrypt.Proofs.Hashing
import Bcrypt.Proofs.Hashing.Buffer
import Bcrypt.Proofs.EncodedComparison
import Bcrypt.Proofs.Ownership
import Bcrypt.Proofs.KeyMaterial
import Bcrypt.Proofs.Disclosure
import Bcrypt.Proofs.ExpensiveWork
import Bcrypt.Proofs.Machine.Checked
import Bcrypt.Proofs.Machine.Radix64
import Bcrypt.Proofs.Machine.Lengths
import Bcrypt.Proofs.Machine.Cipher
import Bcrypt.Proofs.Machine.KeySchedule
import Bcrypt.Proofs.Machine.Hashing
import Bcrypt.Proofs.Machine.HashString
import Bcrypt.Proofs.Machine.Calls
import Bcrypt.Proofs.Session
import Bcrypt.Proofs.CommandLine
import Bcrypt.Proofs.CommandLine.ExitStatus
