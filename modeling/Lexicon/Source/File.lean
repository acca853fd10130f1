import Lexicon.Source.Error
import Lexicon.Source.Span
import Lexicon.Text.Bytes
import Lexicon.Text.Escape

/-!
# Source files

A file is a name and a text with the table of its line starts.  The table answers where a byte
offset lies (`positionAt`) and what a line holds (`lineAt`); the text answers what a span covers
(`snippet`).  Line terminators belong to the line that they end.
-/

namespace Lexicon.Source

open Text

/-- The offsets at which lines start after the current one, where `text` stands at `offset`. -/
def lineStartsFrom (offset : Nat) : List Char → List Nat
  | [] => []
  | c :: text =>
    if c = '\n' then (offset + c.utf8Size) :: lineStartsFrom (offset + c.utf8Size) text
    else lineStartsFrom (offset + c.utf8Size) text

/-- The offsets at which the lines of a text start: 0, and after each line feed. -/
def lineStarts (text : List Char) : List Nat := 0 :: lineStartsFrom 0 text

/-- A source text under a name, with its length in bytes and its line table. -/
structure SourceFile where
  id : FileId
  name : String
  text : List Char
  size : Nat := byteLength text
  starts : Array Nat := (lineStarts text).toArray
  size_eq : size = byteLength text := by rfl
  starts_eq : starts = (lineStarts text).toArray := by rfl

/-- The number of entries of the increasing array `starts` that are at most `offset`, when those
before `lo` are and those from `hi` on are not. -/
def countUpTo (starts : Array Nat) (offset lo hi : Nat) : Nat :=
  if h : lo < hi then
    let mid := (lo + hi) / 2
    if starts.getD mid 0 ≤ offset then countUpTo starts offset (mid + 1) hi
    else countUpTo starts offset lo mid
  else lo
termination_by hi - lo

namespace SourceFile

def lineCount (f : SourceFile) : Nat := f.starts.size

/-- The offset at which a line starts, lines counted from 0. -/
def lineStart? (f : SourceFile) (line : Nat) : Option Nat := f.starts[line]?

/-- The position of a byte offset, or of the end for an offset past it.  The column counts the
characters before the offset; for an offset inside a character it is 1. -/
def positionAt (f : SourceFile) (offset : Nat) : Position :=
  let offset := min offset f.size
  let line := countUpTo f.starts offset 0 f.lineCount
  let start := f.starts.getD (line - 1) 0
  ⟨offset, line, ((slice? f.text start offset).elim 0 List.length) + 1⟩

/-- Whether `c` belongs to a line terminator. -/
def isTerminator (c : Char) : Bool := c == '\n' || c == '\r'

/-- The text of a line, counted from 1, without the terminators at its end. -/
def lineAt? (f : SourceFile) (line : Nat) : Option (List Char) := do
  guard (0 < line)
  let start ← f.lineStart? (line - 1)
  let text ← slice? f.text start ((f.lineStart? line).getD f.size)
  return (text.reverse.dropWhile isTerminator).reverse

/-- Fails for a line, counted from 1, that the file does not have. -/
def checkLine (f : SourceFile) (line : Nat) : Except SourceError Unit :=
  if line = 0 ∨ f.lineCount < line then .error (.invalidLine line f.lineCount) else .ok ()

/-- The text that a span covers. -/
def snippet (f : SourceFile) (span : Span) : Except SourceError (List Char) :=
  let start := span.lo.offset
  let stop := span.hi.offset
  if stop < start then .error (.invalidSpan start stop)
  else if f.size < stop then .error (.spanOutOfBounds f.size start stop)
  else
    match slice? f.text start stop with
    | some text => .ok text
    | none => .error (.splitsCharacter start stop)

/-- A file as shown to developers. -/
instance : ToString SourceFile where
  toString f :=
    s!"SourceFile \x7b id: FileId({f.id}), name: {quoted f.name}, line_count: {f.lineCount} \x7d"

end SourceFile

end Lexicon.Source
