/-!
# Positions and spans

A position is a point of a source text: a byte offset with the line and the column, both counted
from 1, and columns counted in characters.  A span is the part of one file between two positions.
-/

namespace Lexicon.Source

/-- The number of a file in its source map. -/
abbrev FileId := Nat

/-- A point of a source text.  Lines and columns are unbounded here, and are the same as numbers of
32 bits in all files shorter than `2 ^ 32 - 1` bytes: neither exceeds the number of characters in
front by more than one (`Position.line_advanceOver_start_le`,
`Position.column_advanceOver_start_le`). -/
structure Position where
  offset : Nat
  line : Nat
  column : Nat
  deriving DecidableEq, Repr, Ord

namespace Position

/-- The start of a file. -/
def start : Position := ⟨0, 1, 1⟩

/-- The position just after the character `c` that stands at `p`. -/
def advance (p : Position) (c : Char) : Position :=
  if c = '\n' then ⟨p.offset + c.utf8Size, p.line + 1, 1⟩
  else ⟨p.offset + c.utf8Size, p.line, p.column + 1⟩

/-- The position just after `text` that stands at `p`. -/
def advanceOver (p : Position) (text : List Char) : Position := text.foldl advance p

/-- The earlier of two positions: by offset, then line, then column. -/
def earlier (p q : Position) : Position := if (compare p q).isLE then p else q

/-- The later of two positions. -/
def later (p q : Position) : Position := if (compare p q).isLE then q else p

instance : ToString Position := ⟨fun p => s!"{p.line}:{p.column}"⟩

end Position

/-- The part of the file from `lo` up to, and not including, `hi`. -/
structure Span where
  lo : Position
  hi : Position
  file : FileId
  deriving DecidableEq, Repr

namespace Span

/-- The empty span at a position of the first file. -/
def point (p : Position) : Span := ⟨p, p, 0⟩

/-- Whether the span covers no byte. -/
def isEmpty (s : Span) : Bool := s.lo.offset == s.hi.offset

/-- The number of bytes covered. -/
def length (s : Span) : Nat := s.hi.offset - s.lo.offset

/-- Whether the byte at `offset` is covered. -/
def contains (s : Span) (offset : Nat) : Bool := s.lo.offset ≤ offset && offset < s.hi.offset

/-- The smallest span that covers two spans, in the file of the first. -/
def merge (s t : Span) : Span := ⟨s.lo.earlier t.lo, s.hi.later t.hi, s.file⟩

end Span

end Lexicon.Source
