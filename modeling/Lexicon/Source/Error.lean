/-!
# Source errors

Why a question about source files has no answer.
-/

namespace Lexicon.Source

inductive SourceError where
  | fileNotFound (name : String)
  | invalidSpan (start stop : Nat)
  | spanOutOfBounds (size start stop : Nat)
  | splitsCharacter (start stop : Nat)
  | invalidLine (line lineCount : Nat)
  deriving DecidableEq, Repr

def SourceError.message : SourceError → String
  | fileNotFound name => s!"File not found: {name}"
  | invalidSpan start stop => s!"Invalid span: start {start} > end {stop}"
  | spanOutOfBounds size start stop =>
    s!"Span out of bounds: file has {size} bytes, span is {start}..{stop}"
  | splitsCharacter start stop => s!"Span {start}..{stop} splits a UTF-8 character"
  | invalidLine line lineCount => s!"Invalid line number: {line} (file has {lineCount} lines)"

end Lexicon.Source
