import Lexicon.CommandLine.Arguments

/-!
# Responses

What the caller of the program sees of it, and what it answers when it only tells its version or how
to call it.
-/

namespace Lexicon.CommandLine

/-- The exit status of the program and the texts on its two channels. -/
structure Response where
  status : Nat
  stdout : String := ""
  stderr : String := ""
  deriving DecidableEq, Repr

def programName : String := "sablet"

def programVersion : String := "0.0.3"

/-- The name of the program in a scope of its arguments. -/
def nameAt (scope : Scope) (joint : String) : String :=
  programName ++ scope.elim "" fun command => joint ++ toString command

/-- How an option is written in the help text. -/
def SwitchSpelling.line (s : SwitchSpelling) : String :=
  let short := s.short.elim "    " fun c => s!"-{c}, "
  let value := match s.switch with
    | .flag _ => ""
    | .parameter _ => s!" <{s.long.toUpper}>"
  s!"  {short}--{s.long}{value}\n"

/-- How to call the program. -/
def helpText (scope : Scope) : String :=
  let operands := match scope with
    | none => "<COMMAND>"
    | some .names => "<FILE>"
    | some .normalize => "<WORDS>..."
    | some _ => "<FILES>..."
  let commands := if scope.isSome then "" else
    "\nCommands:\n" ++ String.join (CommandName.all.map fun name => s!"  {name}\n")
  "Usage: " ++ nameAt scope " " ++ s!" [OPTIONS] {operands}\n{commands}\nOptions:\n" ++
    String.join ((switches scope).map SwitchSpelling.line)

/-- What the program answers where the reading of its arguments stops.  The help text and the text
for wrong arguments stand in for those of an argument parser, which say more. -/
def Stop.response : Stop → Response
  | usage => { status := 2, stderr := "error: invalid arguments\n\n" ++ helpText none }
  | version scope => { status := 0, stdout := nameAt scope "-" ++ s!" {programVersion}\n" }
  | help scope => { status := 0, stdout := helpText scope }

end Lexicon.CommandLine
