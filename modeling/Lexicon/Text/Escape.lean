/-!
# Escapes

How characters are shown inside messages: line breaks, tabs and NUL by a letter, a backslash and
quotes with a backslash in front, other ASCII control characters by their number in braces, and all
other characters as themselves.
-/

namespace Lexicon.Text

/-- The digits of `n` in base 16, `a` to `f` for 10 to 15. -/
def hexDigits (n : Nat) : String := String.ofList (Nat.toDigits 16 n)

/-- Whether `c` is an ASCII control character. -/
def isControl (c : Char) : Bool := c.toNat < 32 || c.toNat == 127

/-- A character as shown between the given kinds of quotes. -/
def escapeChar (quotes : List Char) (c : Char) : String :=
  if c = '\x00' then "\\0"
  else if c = '\t' then "\\t"
  else if c = '\r' then "\\r"
  else if c = '\n' then "\\n"
  else if c = '\\' ∨ c ∈ quotes then "\\" ++ c.toString
  else if isControl c then "\\u\x7b" ++ hexDigits c.toNat ++ "\x7d"
  else c.toString

/-- A character as shown on its own. -/
def shownChar (c : Char) : String := escapeChar ['\'', '"'] c

/-- A string between double quotes. -/
def quoted (s : String) : String := "\"" ++ String.join (s.toList.map (escapeChar ['"'])) ++ "\""

/-- The number of a code point, in at least four upper-case hexadecimal digits. -/
def codePointName (c : Char) : String :=
  let digits := (hexDigits c.toNat).toUpper
  "U+" ++ "".pushn '0' (4 - digits.length) ++ digits

end Lexicon.Text
