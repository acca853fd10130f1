import Lexicon.Lexer.Progress

/-!
# Tokenizing whole files

`Lexer.run` reads all tokens of a file.  At an error it either stops, or reports the error, gives up
the rest of its line and reads on, so that it always ends with `eof`.
-/

namespace Lexicon

open Source

/-- What becomes of an error that the lexer meets. -/
inductive RecoveryPolicy where
  /-- It ends the lexing. -/
  | abort
  /-- It is reported, and the rest of its line is given up. -/
  | skipLine
  deriving DecidableEq, Repr

namespace RecoveryPolicy

/-- The policy where none is chosen. -/
def default : RecoveryPolicy := .abort

instance : ToString RecoveryPolicy where
  toString
    | .abort => "abort"
    | .skipLine => "skip-line"

/-- The policy that a string names. -/
def ofString? (s : String) : Option RecoveryPolicy :=
  if s = "abort" then some .abort else if s = "skip-line" then some .skipLine else none

/-- The complaint about a string that names no policy. -/
def unknownMessage (s : String) : String :=
  s!"unknown recovery policy `{s}` (expected `abort` or `skip-line`)"

end RecoveryPolicy

namespace Lexer

/-- Reads all tokens that are left, after those in `tokens`. -/
def runFrom (policy : RecoveryPolicy) (tokens : Array SpannedToken) (lx : Lexer) :
    Except LexError (Array SpannedToken) × Lexer :=
  match h : lx.nextSpanned with
  | (.ok t, lx') =>
    if ht : t.token = .eof then (.ok (tokens.push t), lx')
    else
      have := remaining_nextSpanned_lt h ht
      runFrom policy (tokens.push t) lx'
  | (.error e, lx') =>
    match policy with
    | .abort => (.error e, lx')
    | .skipLine =>
      have := remaining_skipLine_lt h (lx'.log.emit e.toDiagnostic)
      runFrom .skipLine tokens { lx' with log := lx'.log.emit e.toDiagnostic }.skipLine
termination_by lx.remaining

/-- Reads all tokens that are left, `eof` included. -/
def run (policy : RecoveryPolicy) (lx : Lexer) : Except LexError (Array SpannedToken) × Lexer :=
  lx.runFrom policy #[]

/-- The error or token of each step of the iteration that is left. -/
def collect (lx : Lexer) : List (Except LexError Token) × Lexer :=
  go [] lx
where
  go (results : List (Except LexError Token)) (lx : Lexer) :
      List (Except LexError Token) × Lexer :=
    if lx.finished then (results.reverse, lx)
    else
      match h : lx.nextToken with
      | (.error e, lx') => ((.error e :: results).reverse, { lx' with finished := true })
      | (.ok token, lx') =>
        if ht : token = .eof then (results.reverse, { lx' with finished := true })
        else
          have := remaining_nextToken_lt h ht
          go (.ok token :: results) lx'
  termination_by lx.remaining

end Lexer

/-- The tokens of a file, and the lexer at the end with the symbols and the diagnostics. -/
def tokenize (file : SourceFile) (options : LexOptions) (policy : RecoveryPolicy)
    (symbols : SymbolTable) (log : DiagnosticLog) :
    Except LexError (Array SpannedToken) × Lexer :=
  (Lexer.ofFile file options symbols log).run policy

end Lexicon
