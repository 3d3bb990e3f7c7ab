import Bcrypt.Unicode.CombiningClass
import Bcrypt.Unicode.Composition
import Bcrypt.Unicode.Decomposition

/-!
# Normalization form KC

A text is decomposed for compatibility, its marks are put into canonical order, and what
has a primary composite is composed again. Texts that differ only in how their
characters are encoded come out equal.
-/

set_option autoImplicit false

namespace Bcrypt.Unicode

structure Mark where
  codePoint : Nat
  combining : Nat

namespace Mark

def ofCodePoint (codePoint : Nat) : Mark :=
  ⟨codePoint, combiningClass codePoint⟩

/-- Puts a mark in front of an ordered sequence: it moves behind the marks of lower
class that follow it directly. -/
def insert (mark : Mark) : List Mark → List Mark
  | [] => [mark]
  | next :: rest =>
      if next.combining ≠ 0 ∧ next.combining < mark.combining then
        next :: insert mark rest
      else
        mark :: next :: rest

/-- Canonical order: within each run of marks the classes ascend, and marks of one class
keep their order. -/
def sort (marks : List Mark) : List Mark :=
  marks.foldr insert []

/-- Composes what follows a starter. The marks already kept after the starter, latest
first, block a later one unless their class is lower. -/
def composeAfter (starter : Nat) (kept : List Mark) : List Mark → List Nat
  | [] => starter :: kept.reverse.map codePoint
  | next :: rest =>
      let reachable := match kept with
        | [] => true
        | last :: _ => decide (last.combining < next.combining)
      match if reachable then compose? starter next.codePoint else none with
      | some composite => composeAfter composite kept rest
      | none =>
          if next.combining = 0 then
            starter :: kept.reverse.map codePoint ++ composeAfter next.codePoint [] rest
          else
            composeAfter starter (next :: kept) rest

def compose : List Mark → List Nat
  | [] => []
  | mark :: rest =>
      if mark.combining = 0 then composeAfter mark.codePoint [] rest
      else mark.codePoint :: compose rest

end Mark

def normalForm (codePoints : List Nat) : List Nat :=
  Mark.compose (Mark.sort ((codePoints.flatMap decompose).map Mark.ofCodePoint))

def normalize (text : String) : String :=
  String.ofList ((normalForm (text.toList.map Char.toNat)).map Char.ofNat)

end Bcrypt.Unicode
