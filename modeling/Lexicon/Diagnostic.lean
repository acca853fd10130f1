import Lexicon.Source.Map

/-!
# Diagnostics

A diagnostic is a message about a span, with a level, possibly a code, and notes.  `render` shows
it with an excerpt of the source.  Diagnostics are collected in a log, in the order in which they
are reported.
-/

namespace Lexicon

open Source

inductive Level where
  | error
  | warning
  | note
  deriving DecidableEq, Repr

instance : ToString Level where
  toString
    | .error => "error"
    | .warning => "warning"
    | .note => "note"

/-- The name of a kind of diagnostic: a series and a number in it. -/
structure DiagnosticCode where
  series : String
  number : Nat
  deriving DecidableEq, Repr

namespace DiagnosticCode

/-- A character that cannot stand in an identifier, where one is required. -/
def invalidIdentChar : DiagnosticCode := ⟨"E", 1⟩

/-- A character that starts no token. -/
def unexpectedChar : DiagnosticCode := ⟨"E", 2⟩

/-- An integer literal that does not fit into 64 bits. -/
def numberTooLarge : DiagnosticCode := ⟨"E", 3⟩

/-- An identifier whose name is spelled otherwise. -/
def identNormalized : DiagnosticCode := ⟨"W", 1⟩

/-- The codes that the lexer reports. -/
def known : List DiagnosticCode :=
  [invalidIdentChar, unexpectedChar, numberTooLarge, identNormalized]

/-- The number is written with at least four digits. -/
instance : ToString DiagnosticCode where
  toString c :=
    let digits := toString c.number
    c.series ++ "".pushn '0' (4 - digits.length) ++ digits

end DiagnosticCode

/-- A message about a span. -/
structure Diagnostic where
  level : Level
  message : String
  span : Span
  code : Option DiagnosticCode := none
  notes : List String := []
  deriving DecidableEq, Repr

namespace Diagnostic

def withNote (d : Diagnostic) (note : String) : Diagnostic := { d with notes := d.notes ++ [note] }

/-- The level, the code if there is one, and the message. -/
instance : ToString Diagnostic where
  toString d :=
    match d.code with
    | some code => s!"{d.level}[{code}]: {d.message}"
    | none => s!"{d.level}: {d.message}"

/-- The diagnostic with an excerpt of the source, where the map has the span's line, and its
notes. -/
def render (d : Diagnostic) (map : SourceMap) : String :=
  let excerpt := match map.formatSpan d.span with
    | .ok text => "\n" ++ text
    | .error _ => ""
  toString d ++ excerpt ++ String.join (d.notes.map ("\n  = note: " ++ ·))

end Diagnostic

/-- The diagnostics reported so far. -/
structure DiagnosticLog where
  entries : Array Diagnostic := #[]
  deriving DecidableEq, Repr

namespace DiagnosticLog

def emit (log : DiagnosticLog) (d : Diagnostic) : DiagnosticLog := ⟨log.entries.push d⟩

def error (log : DiagnosticLog) (code : DiagnosticCode) (message : String) (span : Span) :
    DiagnosticLog :=
  log.emit { level := .error, message, span, code }

def warning (log : DiagnosticLog) (code : DiagnosticCode) (message : String) (span : Span) :
    DiagnosticLog :=
  log.emit { level := .warning, message, span, code }

/-- The number of diagnostics of one level. -/
def count (log : DiagnosticLog) (level : Level) : Nat := log.entries.countP (·.level == level)

def errorCount (log : DiagnosticLog) : Nat := log.count .error

def warningCount (log : DiagnosticLog) : Nat := log.count .warning

def hasErrors (log : DiagnosticLog) : Bool := log.entries.any (·.level == .error)

end DiagnosticLog

end Lexicon
