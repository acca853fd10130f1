import Lexicon.Assignment
import Lexicon.Command.Source

/-!
# The names of a file

The lines `name = number` of a file bind names, which are listed or looked up.
-/

namespace Lexicon

open Source

/-- Each binding as a line, in binding order. -/
def bindingLines (names : Namespace UInt64) (symbols : SymbolTable) : List String :=
  names.bindings.map fun (name, value) => s!"{symbols.textOf name} = {value}"

/-- What is printed about the names of the file at `path`: all bindings, or the value of the one
that `lookup` spells. -/
def namesOutcome (names : Namespace UInt64) (symbols : SymbolTable) (path : String) :
    (lookup : Option String) → Outcome
  | none => { out := bindingLines names symbols }
  | some spelling =>
    match names.resolve? symbols spelling with
    | some value => { out := [toString value] }
    | none => .failed (.nameNotBound spelling path)

/-- Binds the names of the file at a path. -/
def Lexing.names (lexing : Lexing) (storage : Storage) (lookup : Option String)
    (path : String) : Outcome :=
  match loadSource storage {} path with
  | .error e => .failed e
  | .ok (file, map) =>
    let lexed := lexing.lex file {}
    .after [] (lexed.diagnostics.map (·.render map)) <|
      match lexed.result with
      | .error e => .failed (.lexing e)
      | .ok tokens =>
        namesOutcome (bindAssignments (tokens.toList.map (·.token))) lexed.symbols path lookup

end Lexicon
