/-!
# Hangul syllables

A precomposed syllable stands for a leading consonant, a vowel and possibly a trailing consonant.
The syllables are laid out in the order of these three, so that taking one apart and putting it
together are arithmetic on code points.
-/

namespace Lexicon.Unicode.Hangul

/-- The first syllable. -/
def syllableBase : Nat := 0xAC00

/-- The first leading consonant. -/
def leadBase : Nat := 0x1100

/-- The first vowel. -/
def vowelBase : Nat := 0x1161

/-- The code point before the first trailing consonant, which stands for its absence. -/
def trailBase : Nat := 0x11A7

/-- The number of leading consonants. -/
def leadCount : Nat := 19

/-- The number of vowels. -/
def vowelCount : Nat := 21

/-- The number of trailing consonants, the absent one included. -/
def trailCount : Nat := 28

/-- The number of precomposed syllables. -/
def syllableCount : Nat := leadCount * vowelCount * trailCount

/-- The jamo of the syllable with code point `n`. -/
def decompose? (n : Nat) : Option (List Nat) :=
  let s := n - syllableBase
  if n < syllableBase ∨ syllableCount ≤ s then none
  else
    let lead := leadBase + s / (vowelCount * trailCount)
    let vowel := vowelBase + s / trailCount % vowelCount
    let trail := s % trailCount
    some (if trail = 0 then [lead, vowel] else [lead, vowel, trailBase + trail])

/-- The syllable composed of a leading consonant and a vowel, or of a syllable without trailing
consonant and a trailing consonant. -/
def compose? (a b : Nat) : Option Nat :=
  if leadBase ≤ a ∧ a < leadBase + leadCount ∧ vowelBase ≤ b ∧ b < vowelBase + vowelCount then
    some (syllableBase + ((a - leadBase) * vowelCount + (b - vowelBase)) * trailCount)
  else if syllableBase ≤ a ∧ a < syllableBase + syllableCount ∧
      (a - syllableBase) % trailCount = 0 ∧ trailBase < b ∧ b < trailBase + trailCount then
    some (a + (b - trailBase))
  else none

/-- Whether `n` is a vowel or a trailing consonant, which compose with what stands before them. -/
def isTrailing (n : Nat) : Bool :=
  (vowelBase ≤ n && n < vowelBase + vowelCount) || (trailBase < n && n < trailBase + trailCount)

end Lexicon.Unicode.Hangul
