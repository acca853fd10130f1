import Lexicon.Lexer.Recovery
import Lexicon.Text.Json

/-!
# Token listings

How the tokens of a file are listed: as lines of fields with tabs between them (`tokenLine`), or as
a JSON record of the file (`FileRecord`).
-/

namespace Lexicon

open Source
open Text (Json)

inductive ListingFormat where
  | text
  | json
  deriving DecidableEq, Repr

/-- The format that a word names. -/
def ListingFormat.ofString? (s : String) : Option ListingFormat :=
  if s = "text" then some .text else if s = "json" then some .json else none

/-- The source spelling of an identifier whose name is spelled otherwise. -/
def sourceSpelling? (file : SourceFile) (symbols : SymbolTable) (t : SpannedToken) :
    Option String :=
  match t.token with
  | .ident ident =>
    match file.snippet t.span with
    | .ok raw =>
      let raw := String.ofList raw
      if raw = symbols.textOf ident.name then none else some raw
    | .error _ => none
  | _ => none

/-! ## Lines -/

/-- The fields of a token's line: its start, if it is shown, its kind, its text, and the source
spelling of an identifier whose name is spelled otherwise. -/
def tokenFields (showSpans : Bool) (file : SourceFile) (symbols : SymbolTable)
    (t : SpannedToken) : List String :=
  (if showSpans then [toString t.span.lo] else []) ++
    [t.token.kind, t.token.text symbols] ++
    ((sourceSpelling? file symbols t).map fun raw => s!"(from {raw})").toList

def tokenLine (showSpans : Bool) (file : SourceFile) (symbols : SymbolTable)
    (t : SpannedToken) : String :=
  "\t".intercalate (tokenFields showSpans file symbols t)

/-- The lines of all tokens but the end of the text. -/
def tokenListing (showSpans : Bool) (file : SourceFile) (symbols : SymbolTable)
    (tokens : List SpannedToken) : List String :=
  (tokens.filter (·.token ≠ .eof)).map (tokenLine showSpans file symbols)

/-! ## Records -/

/-- A token in a record. -/
structure TokenRecord where
  kind : String
  text : String
  /-- The source spelling of an identifier whose name is spelled otherwise. -/
  raw : Option String
  line : Nat
  column : Nat
  start : Nat
  stop : Nat
  deriving DecidableEq, Repr

/-- A diagnostic in a record. -/
structure DiagnosticRecord where
  level : Level
  code : Option DiagnosticCode
  message : String
  line : Nat
  column : Nat
  deriving DecidableEq, Repr

/-- The tokens and the diagnostics of a file, and the error that ended its lexing. -/
structure FileRecord where
  file : String
  tokens : List TokenRecord
  diagnostics : List DiagnosticRecord
  error : Option String
  deriving DecidableEq, Repr

def TokenRecord.of (file : SourceFile) (symbols : SymbolTable) (t : SpannedToken) :
    TokenRecord where
  kind := t.token.kind
  text := t.token.text symbols
  raw := sourceSpelling? file symbols t
  line := t.span.lo.line
  column := t.span.lo.column
  start := t.span.lo.offset
  stop := t.span.hi.offset

def DiagnosticRecord.of (d : Diagnostic) : DiagnosticRecord :=
  ⟨d.level, d.code, d.message, d.span.lo.line, d.span.lo.column⟩

/-- A file whose lexing failed has no tokens in its record. -/
def FileRecord.of (file : SourceFile) (symbols : SymbolTable)
    (result : Except LexError (Array SpannedToken)) (diagnostics : List Diagnostic) :
    FileRecord where
  file := file.name
  tokens := match result with
    | .ok tokens => tokens.toList.map (TokenRecord.of file symbols)
    | .error _ => []
  diagnostics := diagnostics.map DiagnosticRecord.of
  error := match result with
    | .ok _ => none
    | .error e => some e.message

/-- The field of a record that is left out if it has no value. -/
def optionalField (name : String) (value : Option String) : List (String × Json) :=
  (value.map fun s => (name, Json.string s)).toList

def TokenRecord.toJson (r : TokenRecord) : Json :=
  .object <|
    [("kind", .string r.kind), ("text", .string r.text)] ++ optionalField "raw" r.raw ++
      [("line", .number r.line), ("column", .number r.column), ("start", .number r.start),
        ("end", .number r.stop)]

def DiagnosticRecord.toJson (r : DiagnosticRecord) : Json :=
  .object [("level", .string (toString r.level)),
    ("code", r.code.elim .null fun code => .string (toString code)),
    ("message", .string r.message), ("line", .number r.line), ("column", .number r.column)]

def FileRecord.toJson (r : FileRecord) : Json :=
  .object <|
    [("file", .string r.file), ("tokens", .array (r.tokens.map TokenRecord.toJson)),
      ("diagnostics", .array (r.diagnostics.map DiagnosticRecord.toJson))] ++
    optionalField "error" r.error

end Lexicon
