import Bcrypt.Limits
import Bcrypt.Text.Decimal

/-!
# Arguments of the command line

The words after the program's name are read from left to right. Options stand before or
after other words until `--` ends them; a value is attached to its option or is the next
word, which then must not look like an option. No option may be given twice. The first
word that does not fit decides that the whole is refused.
-/

set_option autoImplicit false

namespace Bcrypt.CommandLine

inductive Request where
  | hash (cost : Nat) (salt : Option String) (normalized : Bool)
  | verify (hashed : String) (normalized : Bool)
  | version
  | help
  deriving DecidableEq

inductive Token where
  /-- `--`: no options follow. -/
  | endOfOptions
  /-- `--name` or `--name=value`. -/
  | long (name : List Char) (value : Option (List Char))
  /-- `-x`, with what stands directly behind it. -/
  | short (letter : Char) (attached : List Char)
  | plain (text : List Char)
  deriving DecidableEq

namespace Token

def splitValue : List Char → List Char × Option (List Char)
  | [] => ([], none)
  | character :: rest =>
      if character = '=' then ([], some rest)
      else (character :: (splitValue rest).1, (splitValue rest).2)

def ofWord : List Char → Token
  | ['-', '-'] => endOfOptions
  | '-' :: '-' :: rest => long (splitValue rest).1 (splitValue rest).2
  | '-' :: letter :: attached => short letter attached
  | text => plain text

def ofWords : List (List Char) → List Token
  | [] => []
  | word :: rest =>
      match ofWord word with
      | endOfOptions => endOfOptions :: rest.map plain
      | token => token :: ofWords rest

/-- The value attached to a short option. An equals sign in front of it is not part of it. -/
def attachedValue? : List Char → Option (List Char)
  | [] => none
  | '=' :: value => some value
  | value => some value

def isHelp : Token → Bool
  | long name none => name = "help".toList
  | short letter _ => letter = 'h'
  | _ => false

def isVersion : Token → Bool
  | long name none => name = "version".toList
  | short letter _ => letter = 'V'
  | _ => false

def isNormalize : Token → Bool
  | long name none => name = "nfkc".toList
  | _ => false

end Token

namespace Arguments

/-- The number that a cost is given as. It must fit 32 bits; whether it is a cost is not
asked here. -/
def costNumber? (text : List Char) : Option Nat :=
  (Text.Decimal.readSigned? text).filter (· < UInt32.size)

structure HashOptions where
  cost : Option Nat
  salt : Option String
  normalized : Bool

namespace HashOptions

def empty : HashOptions := ⟨none, none, false⟩

def setCost (options : HashOptions) (value : List Char) : Option HashOptions :=
  match options.cost with
  | none => (costNumber? value).map fun cost => { options with cost := some cost }
  | some _ => none

def setSalt (options : HashOptions) (value : List Char) : Option HashOptions :=
  match options.salt with
  | none => some { options with salt := some (String.ofList value) }
  | some _ => none

def setNormalized (options : HashOptions) : Option HashOptions :=
  if options.normalized then none else some { options with normalized := true }

def chosenCost? (options : HashOptions) (costVariable : Option String) : Option Nat :=
  match options.cost, costVariable with
  | some cost, _ => some cost
  | none, some text => costNumber? text.toList
  | none, none => some Limits.defaultCost

end HashOptions

inductive Valued where
  | cost
  | salt
  deriving DecidableEq

namespace Valued

def set (option : Valued) (options : HashOptions) (value : List Char) : Option HashOptions :=
  match option with
  | cost => options.setCost value
  | salt => options.setSalt value

def ofToken? : Token → Option (Valued × Option (List Char))
  | .long name value =>
      if name = "cost".toList then some (cost, value)
      else if name = "salt".toList then some (salt, value)
      else none
  | .short letter attached =>
      if letter = 'c' then some (cost, Token.attachedValue? attached)
      else if letter = 's' then some (salt, Token.attachedValue? attached)
      else none
  | _ => none

end Valued

def hashRequest? (costVariable : Option String) (outer : Bool) (options : HashOptions) :
    List Token → Option Request
  | [] => do
      return .hash (← options.chosenCost? costVariable) options.salt (outer || options.normalized)
  | token :: rest =>
      if token.isHelp then some .help
      else if token.isNormalize then do
        hashRequest? costVariable outer (← options.setNormalized) rest
      else if token = .endOfOptions then
        if rest = [] then do
          return .hash (← options.chosenCost? costVariable) options.salt
            (outer || options.normalized)
        else
          none
      else
        match Valued.ofToken? token with
        | none => none
        | some (option, some value) => do
            hashRequest? costVariable outer (← option.set options value) rest
        | some (option, none) =>
            match rest with
            | .plain value :: rest => do
                hashRequest? costVariable outer (← option.set options value) rest
            | _ => none

def verifyRequest? (outer normalized : Bool) (hashed : Option (List Char)) :
    List Token → Option Request
  | [] => hashed.map fun text => .verify (String.ofList text) (outer || normalized)
  | .endOfOptions :: rest => verifyRequest? outer normalized hashed rest
  | .plain text :: rest =>
      match hashed with
      | none => verifyRequest? outer normalized (some text) rest
      | some _ => none
  | token :: rest =>
      if token.isHelp then some .help
      else if token.isNormalize && !normalized then verifyRequest? outer true hashed rest
      else none

def helpRequest? : List Token → Option Request
  | [] => some .help
  | [.plain name] =>
      if name = "hash".toList ∨ name = "verify".toList ∨ name = "help".toList then some .help
      else none
  | _ => none

/-- The words before and including the command. The options of a command are not known before it. -/
def commandRequest? (costVariable : Option String) (normalized : Bool) : List Token → Option Request
  | [] => none
  | .plain name :: rest =>
      if name = "hash".toList then hashRequest? costVariable normalized .empty rest
      else if name = "verify".toList then verifyRequest? normalized false none rest
      else if name = "help".toList then helpRequest? rest
      else none
  | token :: rest =>
      if token.isHelp then some .help
      else if token.isVersion then some .version
      else if token.isNormalize && !normalized then commandRequest? costVariable true rest
      else none

end Arguments

/-- What the words ask for, given the value of the environment's cost variable; none if
they are refused. -/
def request? (words : List String) (costVariable : Option String) : Option Request :=
  Arguments.commandRequest? costVariable false (Token.ofWords (words.map String.toList))

end Bcrypt.CommandLine
