/-!
# Integer literals

A literal is a run of decimal digits, with single underscores allowed between digits.  Its value is
a 64-bit word, if it fits into one.
-/

namespace Lexicon.Numeral

/-- Whether a literal goes on over `c` when `next` follows `c`. -/
def continues (c : Char) (next : Option Char) : Bool :=
  c.isDigit || (c == '_' && next.any Char.isDigit)

/-- Splits a text after a literal of which `taken` was read, last character first. -/
def splitFrom (taken : List Char) : List Char → List Char × List Char
  | [] => (taken.reverse, [])
  | c :: rest =>
    if continues c rest.head? then splitFrom (c :: taken) rest else (taken.reverse, c :: rest)

/-- The literal that a text begins with, and the rest. -/
def split (text : List Char) : List Char × List Char := splitFrom [] text

/-- The word `10 * v + d`, if it fits. -/
def appendDigit? (v : UInt64) (d : Nat) : Option UInt64 :=
  let n := v.toNat * 10 + d
  if n < UInt64.size then some (UInt64.ofNat n) else none

/-- The value of a literal, if it fits into a word. -/
def value? (literal : List Char) : Option UInt64 :=
  literal.foldlM
    (fun v c => if c == '_' then some v else appendDigit? v (c.toNat - '0'.toNat)) (0 : UInt64)

/-- The largest word, which stands for every literal that does not fit. -/
def largest : UInt64 := UInt64.ofNat (UInt64.size - 1)

theorem splitFrom_append (taken text : List Char) :
    (splitFrom taken text).1 ++ (splitFrom taken text).2 = taken.reverse ++ text := by
  fun_induction splitFrom taken text with
  | case1 => rfl
  | case2 taken c rest _ ih => rw [ih, List.reverse_cons, List.append_assoc, List.singleton_append]
  | case3 => rfl

/-- Splitting loses nothing. -/
theorem split_append (text : List Char) : (split text).1 ++ (split text).2 = text :=
  splitFrom_append [] text

theorem length_splitFrom_le (taken text : List Char) :
    (splitFrom taken text).2.length ≤ text.length := by
  fun_induction splitFrom taken text with
  | case1 => simp
  | case2 taken c rest _ ih => simp only [List.length_cons]; omega
  | case3 => simp

/-- A literal that begins with a digit is not empty. -/
theorem length_split_lt {c : Char} {rest : List Char} (h : c.isDigit) :
    (split (c :: rest)).2.length < (c :: rest).length := by
  rw [split, splitFrom, if_pos (by simp [continues, h])]
  have := length_splitFrom_le [c] rest
  simp only [List.length_cons]
  omega

end Lexicon.Numeral
