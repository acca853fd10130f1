import Lexicon.Command.Outcome
import Lexicon.Diagnostic
import Lexicon.Lexer.Recovery

/-!
# Source files of commands

Commands name a file by the path that was given, so that messages show it the way it was typed.
-/

namespace Lexicon

open Source

/-- The text of the file at a path. -/
def readSource (storage : Storage) (path : String) : Except CommandError (List Char) :=
  match storage.read path with
  | .error e => .error (.sourceUnreadable path e)
  | .ok bytes =>
    match decodeText? bytes with
    | some text => .ok text
    | none => .error (.sourceNotText path)

/-- Reads the file at a path into a source map. -/
def loadSource (storage : Storage) (map : SourceMap) (path : String) :
    Except CommandError (SourceFile × SourceMap) :=
  (readSource storage path).map (map.addFile path)

/-- How files are lexed. -/
structure Lexing where
  options : LexOptions
  policy : RecoveryPolicy
  deriving DecidableEq, Repr

/-- The tokens of a file or the error that ended its lexing, with its diagnostics. -/
structure LexedFile where
  file : SourceFile
  result : Except LexError (Array SpannedToken)
  symbols : SymbolTable
  diagnostics : List Diagnostic

/-- Lexes a file with a log of its own. -/
def Lexing.lex (lexing : Lexing) (file : SourceFile) (symbols : SymbolTable) : LexedFile :=
  let (result, lx) := tokenize file lexing.options lexing.policy symbols {}
  ⟨file, result, lx.symbols, lx.log.entries.toList⟩

/-- The number of diagnostics of one level. -/
def LexedFile.count (lexed : LexedFile) (level : Level) : Nat :=
  lexed.diagnostics.countP (·.level == level)

end Lexicon
