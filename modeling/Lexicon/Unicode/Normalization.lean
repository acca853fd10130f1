import Lexicon.Unicode.CombiningClass
import Lexicon.Unicode.Composition
import Lexicon.Unicode.Decomposition
import Lexicon.Unicode.Hangul
import Lexicon.Unicode.IdentifierClass

/-!
# Normalization Form KC

Two spellings of a text are equivalent when they have the same normal form.  The form is computed in
three steps (`nfkc`): every character is replaced by its full compatibility decomposition, the marks
after each starter are put in canonical order, and characters are composed again where that is
possible.  `normalForm?` answers `none` for a text that is its own normal form, and finds that out
without the three steps where all characters are inert.
-/

namespace Lexicon.Unicode

/-! ## Decomposition -/

/-- The listed decomposition of code point `n`. -/
def Decomposition.listed? (n : Nat) : Option (List Nat) :=
  (table.block? n).bind fun b => b.value[n - b.first]?

/-- The decomposition of code point `n`, unless it stands for itself. -/
def Decomposition.codePoints? (n : Nat) : Option (List Nat) := Hangul.decompose? n <|> listed? n

/-- The full compatibility decomposition of a character. -/
def decompose (c : Char) : List Char :=
  match Decomposition.codePoints? c.toNat with
  | some ns => ns.map Char.ofNat
  | none => [c]

/-! ## Canonical order -/

/-- Puts a mark in front of marks in canonical order, behind those of a lower class. -/
def insertMark (c : Char) : List Char → List Char
  | [] => [c]
  | d :: rest =>
    if 0 < combiningClass d ∧ combiningClass d < combiningClass c then d :: insertMark c rest
    else c :: d :: rest

/-- Sorts each run of marks by class, keeping the order of marks of one class. -/
def canonicalOrder (text : List Char) : List Char := text.foldr insertMark []

/-! ## Composition -/

/-- The composite of two code points. -/
def Composition.codePoint? (a b : Nat) : Option Nat :=
  Hangul.compose? a b <|> (table.find? a).bind (·.lookup b)

/-- The composite of two characters. -/
def compose? (a b : Char) : Option Char :=
  (Composition.codePoint? a.toNat b.toNat).map Char.ofNat

/-- Whether the marks `held` since the starter, last one first, keep `c` away from it. -/
def isBlocked (held : List Char) (c : Char) : Bool :=
  match held with
  | [] => false
  | m :: _ => combiningClass c ≤ combiningClass m

/-- Composes `starter` with what follows it, where `held` are the marks between, last one first. -/
def composeFrom (starter : Char) (held : List Char) : List Char → List Char
  | [] => starter :: held.reverse
  | c :: rest =>
    match if isBlocked held c then none else compose? starter c with
    | some composite => composeFrom composite held rest
    | none =>
      if combiningClass c = 0 then starter :: (held.reverse ++ composeFrom c [] rest)
      else composeFrom starter (c :: held) rest

/-- Composes each starter with the following characters that are not blocked from it. -/
def composeAll : List Char → List Char
  | [] => []
  | c :: rest => if combiningClass c = 0 then composeFrom c [] rest else c :: composeAll rest

/-! ## Normal forms -/

/-- The normal form of a text, step by step. -/
def nfkc (text : List Char) : List Char := composeAll (canonicalOrder (text.flatMap decompose))

/-- Whether a character decomposes to itself, is a starter, and composes with nothing before it. -/
def isInert (c : Char) : Bool :=
  (Decomposition.codePoints? c.toNat).isNone && combiningClass c == 0 &&
    (Composition.trailing.block? c.toNat).isNone && !Hangul.isTrailing c.toNat

/-- The normal form of a text where it differs from the text. -/
def normalForm? (text : List Char) : Option (List Char) :=
  if text.all isAscii then none
  else if text.all isInert then none
  else
    let form := nfkc text
    if form = text then none else some form

/-- The normal form of a text. -/
def normalize (text : List Char) : List Char := (normalForm? text).getD text

/-- Whether a text is its own normal form. -/
def isNormalized (text : List Char) : Bool := (normalForm? text).isNone

end Lexicon.Unicode
