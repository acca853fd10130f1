import Lexicon.Command.Source

/-!
# Checking files

Every file is lexed for itself, whatever becomes of the others; they share nothing but the symbols.
The findings are printed in the order of the files, with their sums at the end.
-/

namespace Lexicon

open Source

/-- What was found in a file. -/
structure FileFindings where
  /-- The rendered diagnostics, in source order. -/
  messages : List String
  errors : Nat
  warnings : Nat
  identifiers : Nat
  deriving DecidableEq, Repr

/-- The number of identifiers among the tokens of a file, 0 if its lexing failed. -/
def LexedFile.identifiers (lexed : LexedFile) : Nat :=
  match lexed.result with
  | .ok tokens => tokens.toList.countP (·.token.isIdent)
  | .error _ => 0

/-- The diagnostics of a file, with the error that ended its lexing as the last of them. -/
def LexedFile.allDiagnostics (lexed : LexedFile) : List Diagnostic :=
  match lexed.result with
  | .ok _ => lexed.diagnostics
  | .error e => lexed.diagnostics ++ [e.toDiagnostic.withNote e.message]

/-- The findings in a lexed file, which `map` numbers. -/
def FileFindings.of (map : SourceMap) (lexed : LexedFile) : FileFindings where
  messages := lexed.allDiagnostics.map (·.render map)
  errors := lexed.allDiagnostics.countP (·.level == .error)
  warnings := lexed.allDiagnostics.countP (·.level == .warning)
  identifiers := lexed.identifiers

/-- The findings in the file at a path, or why it cannot be read. -/
abbrev FileReport := Except CommandError FileFindings

/-- Checks the file at a path. -/
def Lexing.checkFile (lexing : Lexing) (storage : Storage) (symbols : SymbolTable)
    (path : String) : FileReport × SymbolTable :=
  match loadSource storage {} path with
  | .error e => (.error e, symbols)
  | .ok (file, map) =>
    let lexed := lexing.lex file symbols
    (.ok (.of map lexed), lexed.symbols)

/-- Checks files one after another. -/
def Lexing.checkFiles (lexing : Lexing) (storage : Storage) (symbols : SymbolTable) :
    List String → List (String × FileReport)
  | [] => []
  | path :: paths =>
    let (report, symbols) := lexing.checkFile storage symbols path
    (path, report) :: lexing.checkFiles storage symbols paths

namespace FileReport

def errors : FileReport → Nat
  | .ok findings => findings.errors
  | .error _ => 0

def warnings : FileReport → Nat
  | .ok findings => findings.warnings
  | .error _ => 0

/-- Whether the file could not be read, or has errors. -/
def isFailure : FileReport → Bool
  | .ok findings => findings.errors ≠ 0
  | .error _ => true

/-- What is printed of a file that has no errors. -/
def out (path : String) : FileReport → List String
  | .ok findings =>
    if findings.errors = 0 then [s!"{path}: ok ({findings.identifiers} identifiers)"] else []
  | .error _ => []

/-- The diagnostics that are printed of a file. -/
def err : FileReport → List String
  | .ok findings => findings.messages
  | .error e => [e.line]

end FileReport

/-- The line with the sums over all files. -/
def checkSummary (reports : List (String × FileReport)) : String :=
  let errors := reports.foldl (fun n (_, report) => n + report.errors) 0
  let warnings := reports.foldl (fun n (_, report) => n + report.warnings) 0
  s!"checked {reports.length} file(s): {errors} error(s), {warnings} warning(s)"

/-- The outcome of a check with the given reports. -/
def checkOutcome (reports : List (String × FileReport)) : Outcome where
  out := reports.flatMap (fun (path, report) => report.out path) ++ [checkSummary reports]
  err := reports.flatMap (·.2.err)
  failure :=
    let failures := reports.countP (·.2.isFailure)
    if failures = 0 then none else some (.filesFailed failures)

/-- Checks files, `jobs` of them at a time; their order and what is printed do not depend on it.
There is at least one in the arguments of the program
(`CommandLine.Invocation.operands_ne_nil_of_read`), so a list without paths is not refused here. -/
def Lexing.check (lexing : Lexing) (storage : Storage) (jobs : Option Nat)
    (paths : List String) : Outcome :=
  if jobs = some 0 then .failed .noJobs
  else checkOutcome (lexing.checkFiles storage {} paths)

end Lexicon
