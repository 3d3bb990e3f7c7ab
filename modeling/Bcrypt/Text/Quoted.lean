import Bcrypt.Text.Hexadecimal
import Bcrypt.Unicode.Printing

/-!
# Quoted text

Text that came from outside is shown between double quotes, in such a way that every
character can be told: what does not print, or would be drawn on top of its neighbour,
is written as its code point.
-/

set_option autoImplicit false

namespace Bcrypt.Text.Quoted

def codePoint (character : Char) : List Char :=
  ['\\', 'u', '\x7b'] ++ Hexadecimal.digits character.toNat ++ ['\x7d']

/-- One character of a quoted text. An apostrophe needs no escape between double quotes. -/
def escape (character : Char) : List Char :=
  match character with
  | '\x00' => ['\\', '0']
  | '\t' => ['\\', 't']
  | '\r' => ['\\', 'r']
  | '\n' => ['\\', 'n']
  | '\\' => ['\\', '\\']
  | '\"' => ['\\', '\"']
  | _ =>
      if Unicode.extendsGrapheme character || !Unicode.isPrinting character then
        codePoint character
      else
        [character]

def quote (text : String) : String :=
  String.ofList (['\"'] ++ text.toList.flatMap escape ++ ['\"'])

end Bcrypt.Text.Quoted
