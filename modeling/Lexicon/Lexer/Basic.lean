import Lexicon.Lexer.Error
import Lexicon.Lexer.Numeral
import Lexicon.Lexer.Token
import Lexicon.Source.Cursor
import Lexicon.Source.File

/-!
# The lexer

A lexer reads the tokens of one file from left to right.  Blanks and comments are skipped; a line
feed is a token.  A character that starts no token, a literal that is too large and, if wanted, an
identifier that normalization changes are reported to the log, and lexing goes on.  A character
beyond ASCII always belongs to an identifier: where it cannot, the lexer fails and stays in front
of it, and the caller either stops or goes on with the next line (`skipLine`).
-/

namespace Lexicon

open Source

structure LexOptions where
  /-- Report every identifier that normalization changes. -/
  warnNormalized : Bool := false
  deriving DecidableEq, Repr

/-- A file under lexing, with the symbols and the diagnostics collected so far. -/
structure Lexer where
  file : SourceFile
  options : LexOptions
  cursor : Cursor
  /-- Where the last token begins. -/
  tokenStart : Position
  /-- Whether the iteration `next?` is over. -/
  finished : Bool
  symbols : SymbolTable
  log : DiagnosticLog

/-- A blank within a line. -/
def isBlank (c : Char) : Bool := c == ' ' || c == '\t' || c == '\r' || c == '\x0c'

namespace Lexer

/-- A lexer at the start of a file, behind a byte order mark. -/
def ofFile (file : SourceFile) (options : LexOptions) (symbols : SymbolTable)
    (log : DiagnosticLog) : Lexer where
  file
  options
  cursor := ((Cursor.ofText file.text).eat '\uFEFF').2
  tokenStart := .start
  finished := false
  symbols
  log

def advance (lx : Lexer) : Lexer := { lx with cursor := lx.cursor.advance }

/-- Moves to the end of the line. -/
def skipComment (lx : Lexer) : Lexer := { lx with cursor := lx.cursor.eatWhile (· != '\n') }

/-- Moves over blanks and a comment after them.  The comment ends the line, so nothing is left to
skip behind it. -/
def skipTrivia (lx : Lexer) : Lexer :=
  let lx := { lx with cursor := lx.cursor.eatWhile isBlank }
  if lx.cursor.current? = some '#' then lx.skipComment else lx

/-- Gives up the rest of the line, but not its line feed, and lets the iteration go on. -/
def skipLine (lx : Lexer) : Lexer := { lx.skipComment with finished := false }

/-- The span from the start of the token to the cursor. -/
def tokenSpan (lx : Lexer) : Span := ⟨lx.tokenStart, lx.cursor.pos, lx.file.id⟩

/-- Reports an error about the token. -/
def reportError (lx : Lexer) (code : DiagnosticCode) (message : String) : Lexer :=
  { lx with log := lx.log.error code message lx.tokenSpan }

/-! ## Literals and identifiers -/

/-- Reads the integer literal at the cursor.  One that is too large is reported, and read as the
largest number. -/
def lexNumber (lx : Lexer) : Token × Lexer :=
  let (literal, rest) := Numeral.split lx.cursor.rest
  let lx := { lx with cursor := lx.cursor.moveOver literal rest }
  match Numeral.value? literal with
  | some value => (.number value, lx)
  | none =>
    let text := String.ofList (lx.cursor.textFrom lx.tokenStart.offset)
    (.number Numeral.largest,
      lx.reportError .numberTooLarge s!"integer literal `{text}` is too large")

/-- The error about the character `c` at the cursor. -/
def errorAt (lx : Lexer) (c : Char) : LexError :=
  let pos := lx.cursor.pos
  { file := lx.file.name
    offending := c
    span := ⟨pos, ⟨pos.offset + c.utf8Size, pos.line, pos.column + 1⟩, lx.file.id⟩ }

/-- Gives the identifier spelled `raw` its name.  A spelling that differs from it is reported if
wanted. -/
def nameIdent (lx : Lexer) (raw : List Char) (span : Span) : Ident × Lexer :=
  let form := Unicode.normalForm? raw
  let name := String.ofList (form.getD raw)
  let (symbol, symbols) := lx.symbols.intern name
  let log :=
    if lx.options.warnNormalized && form.isSome then
      lx.log.warning .identNormalized
        s!"identifier `{String.ofList raw}` is normalized to `{name}`" span
    else lx.log
  (⟨symbol, span⟩, { lx with symbols, log })

/-- Reads the identifier at the cursor, where `first` is the current character.  It ends before the
first ASCII character that cannot continue it; any other character that cannot is an error. -/
def lexIdent (lx : Lexer) (first : Char) : Except LexError Token × Lexer :=
  if Unicode.isIdentStart first then
    let start := lx.cursor.pos
    let lx := { lx with cursor := lx.cursor.advance.eatWhile Unicode.isIdentContinue }
    match lx.cursor.current?.filter (!Unicode.isAscii ·) with
    | some c => (.error (lx.errorAt c), lx)
    | none =>
      let raw := lx.cursor.textFrom start.offset
      let (ident, lx) := lx.nameIdent raw ⟨start, lx.cursor.pos, lx.file.id⟩
      (.ok (.ident ident), lx)
  else (.error (lx.errorAt first), lx)

/-! ## Tokens -/

/-- Moves to where the next token begins. -/
def beginToken (lx : Lexer) : Lexer :=
  let lx := lx.skipTrivia
  { lx with tokenStart := lx.cursor.pos }

/-- Reads the token that begins at the cursor. -/
def readToken (lx : Lexer) : Except LexError Token × Lexer :=
  match lx.cursor.current? with
  | none => (.ok .eof, lx)
  | some c =>
    if c = '\n' then (.ok .newline, lx.advance)
    else
      match Punctuation.ofChar? c with
      | some mark => (.ok (.punct mark), lx.advance)
      | none =>
        if c.isDigit then
          let (token, lx) := lx.lexNumber
          (.ok token, lx)
        else if Unicode.isAsciiIdentStart c || !Unicode.isAscii c then lx.lexIdent c
        else
          (.ok (.invalid c), lx.advance.reportError .unexpectedChar
            s!"unexpected character `{Text.shownChar c}`")

/-- Reads the next token, which is `eof` at the end of the text. -/
def nextToken (lx : Lexer) : Except LexError Token × Lexer := lx.beginToken.readToken

/-- Reads the next token with its span. -/
def nextSpanned (lx : Lexer) : Except LexError SpannedToken × Lexer :=
  match lx.nextToken with
  | (.ok token, lx) => (.ok ⟨token, lx.tokenSpan⟩, lx)
  | (.error e, lx) => (.error e, lx)

/-- Reads the next token of the iteration, which is over after the last token or an error. -/
def next? (lx : Lexer) : Option (Except LexError Token) × Lexer :=
  if lx.finished then (none, lx)
  else
    match lx.nextToken with
    | (.ok .eof, lx) => (none, { lx with finished := true })
    | (.ok token, lx) => (some (.ok token), lx)
    | (.error e, lx) => (some (.error e), { lx with finished := true })

end Lexer

end Lexicon
