import Lexicon.Source.Span
import Lexicon.Symbol
import Lexicon.Text.Escape

/-!
# Tokens

What the lexer makes of a source text.  `Token.text` writes a token as listings show it; for an
identifier that takes the symbol table that holds its name.
-/

namespace Lexicon

open Source

/-- The punctuation marks, each a token of its own. -/
inductive Punctuation where
  | equal
  | plus
  | minus
  | star
  | slash
  | leftParen
  | rightParen
  | comma
  | colon
  | dot
  deriving DecidableEq, Repr

namespace Punctuation

def char : Punctuation → Char
  | equal => '='
  | plus => '+'
  | minus => '-'
  | star => '*'
  | slash => '/'
  | leftParen => '('
  | rightParen => ')'
  | comma => ','
  | colon => ':'
  | dot => '.'

def ofChar? : Char → Option Punctuation
  | '=' => some equal
  | '+' => some plus
  | '-' => some minus
  | '*' => some star
  | '/' => some slash
  | '(' => some leftParen
  | ')' => some rightParen
  | ',' => some comma
  | ':' => some colon
  | '.' => some dot
  | _ => none

theorem ofChar?_char (p : Punctuation) : ofChar? p.char = some p := by cases p <;> rfl

theorem char_of_ofChar? {c : Char} {p : Punctuation} (h : ofChar? c = some p) : p.char = c := by
  unfold ofChar? at h
  split at h <;> first | cases h; rfl | cases h

end Punctuation

/-- An identifier: the symbol of its normalized name, and where its source spelling stands. -/
structure Ident where
  name : Symbol
  span : Span
  deriving DecidableEq, Repr

inductive Token where
  | ident (ident : Ident)
  /-- A decimal integer literal. -/
  | number (value : UInt64)
  /-- The end of a line. -/
  | newline
  | punct (mark : Punctuation)
  /-- An ASCII character that starts no token. -/
  | invalid (c : Char)
  /-- The end of the text. -/
  | eof
  deriving DecidableEq, Repr

namespace Token

def isIdent : Token → Bool
  | ident _ => true
  | _ => false

/-- The kind of a token in listings. -/
def kind : Token → String
  | ident _ => "ident"
  | number _ => "number"
  | newline => "newline"
  | punct _ => "punct"
  | invalid _ => "invalid"
  | eof => "eof"

/-- A token as written in listings. -/
def text (symbols : SymbolTable) : Token → String
  | ident id => symbols.textOf id.name
  | number value => toString value
  | newline => "\\n"
  | punct mark => mark.char.toString
  | invalid c => Text.shownChar c
  | eof => "<eof>"

end Token

/-- A token with the span that it was lexed from. -/
structure SpannedToken where
  token : Token
  span : Span
  deriving DecidableEq, Repr

end Lexicon
