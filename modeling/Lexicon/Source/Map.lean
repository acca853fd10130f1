import Lexicon.Source.File

/-!
# Source maps

A source map numbers the files that are read.  An excerpt shows a span with its line and a row of
carets under the characters that it covers (`formatSpan`).
-/

namespace Lexicon.Source

/-- The files that were read, numbered from 0. -/
structure SourceMap where
  files : Array SourceFile := #[]

namespace SourceMap

/-- Adds a file and returns it with the number that it got. -/
def addFile (m : SourceMap) (name : String) (text : List Char) : SourceFile × SourceMap :=
  let file : SourceFile := { id := m.files.size, name, text }
  (file, ⟨m.files.push file⟩)

def get? (m : SourceMap) (id : FileId) : Option SourceFile := m.files[id]?

def getFile (m : SourceMap) (id : FileId) : Except SourceError SourceFile :=
  match m.get? id with
  | some file => .ok file
  | none => .error (.fileNotFound s!"FileId({id})")

def fileCount (m : SourceMap) : Nat := m.files.size

/-- `n` blanks. -/
def blanks (n : Nat) : String := "".pushn ' ' n

/-- `n` in decimal, moved to the right end of a field of the given width. -/
def padLeft (width n : Nat) : String :=
  let digits := toString n
  blanks (width - digits.length) ++ digits

/-- The place of a span, its first line, and carets under what it covers of that line's columns. -/
def formatSpan (m : SourceMap) (span : Span) : Except SourceError String := do
  let file ← m.getFile span.file
  let lineNumber := span.lo.line
  file.checkLine lineNumber
  let line := String.ofList ((file.lineAt? lineNumber).getD [])
  let gutter := max 3 (toString file.lineCount).length
  let covered := match file.snippet span with
    | .ok text => text.length
    | .error _ => 0
  let carets := "".pushn '^' (max 1 covered)
  let column := span.lo.column
  return s!"--> {file.name}:{lineNumber}:{column}\n" ++
    s!"{padLeft gutter lineNumber} | {line}\n" ++
    s!"{blanks gutter} | {blanks (column - 1)}{carets}"

end SourceMap

end Lexicon.Source
