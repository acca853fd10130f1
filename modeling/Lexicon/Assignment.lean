import Lexicon.Lexer.Token
import Lexicon.Namespace

/-!
# Assignments

The lines `name = number` of a token sequence bind numbers to names (`bindAssignments`).
-/

namespace Lexicon

/-- Whether a token ends a line. -/
def Token.endsLine (t : Token) : Bool := t = .newline || t = .eof

/-- The tokens of each line, without those that end the lines. -/
def tokenLines : List Token → List (List Token)
  | [] => [[]]
  | t :: rest =>
    if t.endsLine then [] :: tokenLines rest
    else
      match tokenLines rest with
      | [] => [[t]]
      | line :: lines => (t :: line) :: lines

/-- The binding that a line makes: the name and the number of `name = number`. -/
def assignment? : List Token → Option (Symbol × UInt64)
  | [.ident ident, .punct .equal, .number value] => some (ident.name, value)
  | _ => none

/-- Binds the name of every line `name = number`; other lines bind nothing. -/
def bindAssignments (tokens : List Token) : Namespace UInt64 :=
  Namespace.ofList ((tokenLines tokens).filterMap assignment?)

end Lexicon
