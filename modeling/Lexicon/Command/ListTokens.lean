import Lexicon.Command.Source
import Lexicon.Listing

/-!
# Listing the tokens of files

The files are lexed one after another.  Each is listed before the next is read, and the first that
cannot be read, or whose lexing fails, ends the command.
-/

namespace Lexicon

open Source

/-- What the listing of files shows. -/
structure ListingOptions where
  lexing : Lexing
  format : ListingFormat
  showSpans : Bool
  deriving DecidableEq, Repr

namespace ListingOptions

/-- The lines that list a file.  In text, a file whose lexing failed is not listed. -/
def lines (options : ListingOptions) (lexed : LexedFile) : List String :=
  match options.format, lexed.result with
  | .text, .ok tokens => tokenListing options.showSpans lexed.file lexed.symbols tokens.toList
  | .text, .error _ => []
  | .json, result =>
    [(FileRecord.of lexed.file lexed.symbols result lexed.diagnostics).toJson.render]

/-- Lists files, where `errors` were reported in those before them. -/
def listFrom (options : ListingOptions) (storage : Storage) (map : SourceMap)
    (symbols : SymbolTable) (errors : Nat) : List String → Outcome
  | [] => if errors = 0 then {} else .failed (.errorsReported errors)
  | path :: paths =>
    match loadSource storage map path with
    | .error e => .failed e
    | .ok (file, map) =>
      let lexed := options.lexing.lex file symbols
      .after (options.lines lexed) (lexed.diagnostics.map (·.render map)) <|
        match lexed.result with
        | .error e => .failed (.lexing e)
        | .ok _ =>
          listFrom options storage map lexed.symbols (errors + lexed.count .error) paths

/-- Lists the tokens of files.  There is at least one in the arguments of the program
(`CommandLine.Invocation.operands_ne_nil_of_read`), so a list without paths is not refused here. -/
def list (options : ListingOptions) (storage : Storage) (paths : List String) : Outcome :=
  options.listFrom storage {} {} 0 paths

end ListingOptions

end Lexicon
