import Lexicon.Lexer.Error
import Lexicon.Storage

/-!
# Outcomes of commands

A command prints lines on two channels, one for what was asked for and one for diagnostics, and
succeeds or fails.  `Outcome.status`, `Outcome.stdout` and `Outcome.stderr` are what the caller of
the program sees of it.

The log is left out.  Its events, such as that a file was lexed or how long a check took, go to the
channel for diagnostics too, but a logging library writes them, in a form of its own, and a variable
of the environment turns them off.  No line of an outcome is one of the log.
-/

namespace Lexicon

/-- Why a command fails. -/
inductive CommandError where
  /-- There is no configuration file at the path that was asked for. -/
  | configurationNotFound (path : String)
  /-- The configuration file is not TOML, or has a setting of the wrong type. -/
  | configurationMalformed
  /-- The configuration wants no file at all to be checked at a time. -/
  | configurationWithoutJobs
  | configurationUnreadable (e : FileError)
  | configurationNotText
  | sourceUnreadable (path : String) (e : FileError)
  | sourceNotText (path : String)
  /-- The arguments want no file at all to be checked at a time. -/
  | noJobs
  | notIdentifier (word : String)
  | lexing (e : LexError)
  /-- The lexing went through, but errors were reported. -/
  | errorsReported (count : Nat)
  /-- Files could not be read, or have errors. -/
  | filesFailed (count : Nat)
  | nameNotBound (spelling path : String)
  deriving DecidableEq, Repr

/-- The text of an error.  What follows `Failed to parse configuration:` is fixed here; it stands in
for the words in which a TOML parser describes the mistake and its place. -/
def CommandError.message : CommandError → String
  | configurationNotFound path => s!"Configuration error: Configuration file not found: {path}"
  | configurationMalformed =>
    "Configuration error: Failed to parse configuration: not a table of settings"
  | configurationWithoutJobs => "Configuration error: check.jobs must be at least 1"
  | configurationUnreadable e => s!"IO error: {e.message}"
  | configurationNotText => "IO error: stream did not contain valid UTF-8"
  | sourceUnreadable path e => s!"File operation failed: {path}: {e.message}"
  | sourceNotText path => s!"File operation failed: {path}: source is not valid UTF-8"
  | noJobs => "Validation error: --jobs must be at least 1"
  | notIdentifier word => s!"Validation error: `{word}` is not a single identifier"
  | lexing e => e.message
  | errorsReported count => s!"Command execution failed: {count} error(s) while lexing"
  | filesFailed count => s!"Command execution failed: {count} file(s) failed to check"
  | nameNotBound spelling path =>
    s!"Command execution failed: name `{spelling}` is not bound in {path}"

/-- The line that reports an error. -/
def CommandError.line (e : CommandError) : String := s!"error: {e.message}"

/-- What a command printed, line by line, without what it logged, and why it failed if it did. -/
structure Outcome where
  out : List String := []
  err : List String := []
  failure : Option CommandError := none
  deriving DecidableEq, Repr

namespace Outcome

/-- The outcome of a command that fails before it prints anything. -/
def failed (e : CommandError) : Outcome := { failure := some e }

/-- The outcome of going on with `next` after lines were printed. -/
def after (out err : List String) (next : Outcome) : Outcome :=
  { next with out := out ++ next.out, err := err ++ next.err }

/-- Lines as printed. -/
def printed (lines : List String) : String := String.join (lines.map (· ++ "\n"))

def status (o : Outcome) : Nat := if o.failure.isSome then 1 else 0

def stdout (o : Outcome) : String := printed o.out

/-- The error that a command fails with is reported last. -/
def stderr (o : Outcome) : String := printed (o.err ++ (o.failure.map CommandError.line).toList)

end Outcome

end Lexicon
