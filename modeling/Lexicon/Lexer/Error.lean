import Lexicon.Diagnostic
import Lexicon.Text.Escape

/-!
# Lexing errors

Lexing fails in one way only: where an identifier has to go on, or has to start, stands a character
that can do neither.
-/

namespace Lexicon

open Source

/-- The character `offending` of the file named `file` cannot stand in an identifier; `span` covers
it. -/
structure LexError where
  file : String
  offending : Char
  span : Span
  deriving DecidableEq, Repr

namespace LexError

/-- What is wrong, without the place. -/
def summary : String := "invalid character in identifier"

def line (e : LexError) : Nat := e.span.lo.line

/-- What is wrong, and in which line of which file. -/
def message (e : LexError) : String := s!"{summary} ({e.file}, line {e.line})"

/-- The error as a diagnostic. -/
def toDiagnostic (e : LexError) : Diagnostic where
  level := .error
  message := summary
  span := e.span
  code := some .invalidIdentChar
  notes := [Text.codePointName e.offending ++ " cannot appear in an identifier"]

end LexError

end Lexicon
