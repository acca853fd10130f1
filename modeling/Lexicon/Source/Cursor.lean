import Lexicon.Source.Span
import Lexicon.Text.Bytes

/-!
# Cursors

A cursor stands between two characters of a text and knows its position there.
-/

namespace Lexicon.Source

/-- The characters before the cursor, nearest first, those after it, and its position. -/
structure Cursor where
  passed : List Char
  rest : List Char
  pos : Position
  deriving DecidableEq, Repr

namespace Cursor

/-- The cursor at the start of a text. -/
def ofText (text : List Char) : Cursor := ⟨[], text, .start⟩

/-- The character after the cursor. -/
def current? (cur : Cursor) : Option Char := cur.rest.head?

/-- The character `n` places further than the current one. -/
def peek? (cur : Cursor) (n : Nat) : Option Char := cur.rest[n]?

def isAtEnd (cur : Cursor) : Bool := cur.rest.isEmpty

/-- Moves over the current character; stays at the end of the text. -/
def advance (cur : Cursor) : Cursor :=
  match cur.rest with
  | [] => cur
  | c :: rest => ⟨c :: cur.passed, rest, cur.pos.advance c⟩

/-- Moves over `taken` to where `rest` follows. -/
def moveOver (cur : Cursor) (taken rest : List Char) : Cursor :=
  ⟨taken.reverseAux cur.passed, rest, cur.pos.advanceOver taken⟩

/-- Moves over all characters up to the first that `p` does not hold of. -/
def eatWhile (p : Char → Bool) (cur : Cursor) : Cursor :=
  cur.moveOver (cur.rest.takeWhile p) (cur.rest.dropWhile p)

/-- Moves over the current character if it is `c`; also tells whether it was. -/
def eat (c : Char) (cur : Cursor) : Bool × Cursor :=
  if cur.current? = some c then (true, cur.advance) else (false, cur)

/-- The last `n` bytes of the text whose characters, last one first, are `passed`; `tail` follows
them. -/
def lastBytes? : Nat → List Char → List Char → Option (List Char)
  | 0, _, tail => some tail
  | _ + 1, [], _ => none
  | n + 1, c :: passed, tail =>
    if c.utf8Size ≤ n + 1 then lastBytes? (n + 1 - c.utf8Size) passed (c :: tail) else none

/-- The text from byte offset `start` to the cursor; empty if `start` is past the cursor or inside
a character. -/
def textFrom (cur : Cursor) (start : Nat) : List Char :=
  if start ≤ cur.pos.offset then
    (lastBytes? (cur.pos.offset - start) cur.passed []).getD []
  else []

theorem rest_moveOver (cur : Cursor) (taken rest : List Char) :
    (cur.moveOver taken rest).rest = rest := rfl

theorem rest_eatWhile (p : Char → Bool) (cur : Cursor) :
    (cur.eatWhile p).rest = cur.rest.dropWhile p := rfl

theorem rest_advance (cur : Cursor) : cur.advance.rest = cur.rest.tail := by
  unfold advance
  split <;> simp_all

end Cursor

end Lexicon.Source
