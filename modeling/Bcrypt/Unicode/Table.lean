/-!
# Character data as text

The tables of character properties are kept as text: rows end in a semicolon, and the
numbers of a row are hexadecimal, apart by blanks. A line break counts as a blank.
-/

set_option autoImplicit false

namespace Bcrypt.Unicode.Table

def digitValue? (character : Char) : Option Nat :=
  if '0' ≤ character ∧ character ≤ '9' then some (character.toNat - '0'.toNat)
  else if 'A' ≤ character ∧ character ≤ 'F' then some (character.toNat - 'A'.toNat + 10)
  else none

/-- What has been read so far: the number at hand, and the finished numbers and rows,
latest first. -/
structure Reading where
  number : Option Nat
  row : List Nat
  rows : List (List Nat)

namespace Reading

def endNumber (reading : Reading) : Reading :=
  match reading.number with
  | some number => { reading with number := none, row := number :: reading.row }
  | none => reading

def endRow (reading : Reading) : Reading :=
  let reading := reading.endNumber
  { reading with row := [], rows := reading.row.reverse :: reading.rows }

def read (reading : Reading) (character : Char) : Reading :=
  match digitValue? character with
  | some digit => { reading with number := some (16 * reading.number.getD 0 + digit) }
  | none => if character = ';' then reading.endRow else reading.endNumber

end Reading

def rows (text : String) : List (List Nat) :=
  (text.foldl Reading.read ⟨none, [], []⟩).rows.reverse

/-- The rows of a table as closed ranges; a row of one number is a range of one code point. -/
def ranges (text : String) : List (Nat × Nat) :=
  (rows text).filterMap fun row =>
    match row with
    | [only] => some (only, only)
    | [first, last] => some (first, last)
    | _ => none

def contains (ranges : List (Nat × Nat)) (codePoint : Nat) : Bool :=
  ranges.any fun range => range.1 ≤ codePoint && codePoint ≤ range.2

end Bcrypt.Unicode.Table
