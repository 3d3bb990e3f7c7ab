/-!
# Hangul syllables

A syllable is a leading consonant, a vowel and possibly a trailing consonant. The
syllables are numbered in that order of significance, so composing and decomposing them
is arithmetic.
-/

set_option autoImplicit false

namespace Bcrypt.Unicode.Hangul

def firstSyllable : Nat := 0xAC00
def firstLeading : Nat := 0x1100
def firstVowel : Nat := 0x1161

def beforeTrailing : Nat := 0x11A7

def leadingCount : Nat := 19
def vowelCount : Nat := 21

/-- The number of trailing consonants, counting none as one of them. -/
def trailingCount : Nat := 28

def syllableCount : Nat := leadingCount * vowelCount * trailingCount

def decompose? (codePoint : Nat) : Option (List Nat) :=
  if firstSyllable ≤ codePoint ∧ codePoint < firstSyllable + syllableCount then
    let index := codePoint - firstSyllable
    let leading := firstLeading + index / (vowelCount * trailingCount)
    let vowel := firstVowel + index % (vowelCount * trailingCount) / trailingCount
    let trailing := index % trailingCount
    some (if trailing = 0 then [leading, vowel] else [leading, vowel, beforeTrailing + trailing])
  else
    none

def compose? (first second : Nat) : Option Nat :=
  if firstLeading ≤ first ∧ first < firstLeading + leadingCount ∧
      firstVowel ≤ second ∧ second < firstVowel + vowelCount then
    some (firstSyllable +
      ((first - firstLeading) * vowelCount + (second - firstVowel)) * trailingCount)
  else if firstSyllable ≤ first ∧ first < firstSyllable + syllableCount ∧
      (first - firstSyllable) % trailingCount = 0 ∧
      beforeTrailing < second ∧ second < beforeTrailing + trailingCount then
    some (first + (second - beforeTrailing))
  else
    none

end Bcrypt.Unicode.Hangul
