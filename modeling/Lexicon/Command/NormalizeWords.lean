import Lexicon.Command.Source
import Lexicon.Text.Escape

/-!
# The normal form of identifiers

Each word has to be lexed as a single identifier, whose name is its normal form.
-/

namespace Lexicon

open Source

/-- The name that stands for a word where the name of a file is wanted. -/
def argumentName : String := "<argument>"

/-- The name of the identifier that a word is, with the symbols it belongs to. -/
def normalizeWord (symbols : SymbolTable) (word : String) :
    Except CommandError (Symbol × SymbolTable) :=
  let file : SourceFile := { id := 0, name := argumentName, text := word.toList }
  let (result, lx) := tokenize file {} .abort symbols {}
  match result with
  | .error e => .error (.lexing e)
  | .ok tokens =>
    match tokens.toList.map SpannedToken.token with
    | [.ident ident, .eof] => .ok (ident.name, lx.symbols)
    | _ => .error (.notIdentifier word)

/-- The line of a word with its normal form, and with the code points of that if they are shown. -/
def normalFormLine (showCodePoints : Bool) (word name : String) : String :=
  let codePoints := " ".intercalate (name.toList.map Text.codePointName)
  if showCodePoints then s!"{word} -> {name} [{codePoints}]" else s!"{word} -> {name}"

/-- Prints the normal forms of words, up to the first that is no identifier.  There is at least one
in the arguments of the program (`CommandLine.Invocation.operands_ne_nil_of_read`), so a list
without words is not refused here. -/
def normalizeWords (showCodePoints : Bool) (symbols : SymbolTable) : List String → Outcome
  | [] => {}
  | word :: words =>
    match normalizeWord symbols word with
    | .error e => .failed e
    | .ok (name, symbols) =>
      .after [normalFormLine showCodePoints word (symbols.textOf name)] [] <|
        normalizeWords showCodePoints symbols words

end Lexicon
