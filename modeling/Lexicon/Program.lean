import Lexicon.Command.CheckFiles
import Lexicon.Command.Configuration
import Lexicon.Command.ListTokens
import Lexicon.Command.BindNames
import Lexicon.Command.NormalizeWords
import Lexicon.CommandLine.Response

/-!
# The program

What the program does with its arguments: the configuration is read first, and then the command is
executed with its settings.
-/

namespace Lexicon

open CommandLine

/-- How a command lexes files: the arguments come before the settings. -/
def LexSettings.lexing (settings : LexSettings) (recovery : Option RecoveryPolicy) : Lexing :=
  ⟨settings.options, recovery.getD settings.recovery⟩

def CommandLine.Command.execute (storage : Storage) (settings : Settings) : Command → Outcome
  | .lex format recovery spans paths =>
    ListingOptions.list
      { lexing := settings.lex.lexing recovery
        format
        showSpans := spans || settings.lex.showSpans }
      storage paths
  | .check recovery jobs paths =>
    (settings.lex.lexing recovery).check storage (jobs.or settings.jobs) paths
  | .names recovery lookup path => (settings.lex.lexing recovery).names storage lookup path
  | .normalize codePoints words => normalizeWords codePoints {} words

def CommandLine.Invocation.execute (storage : Storage) (env : Environment) (i : Invocation) :
    Outcome :=
  match loadSettings storage env i.config with
  | .error e => .failed e
  | .ok settings => i.command.execute storage settings

/-- The paths of all files that a run of the program may read. -/
def pathsRead (env : Environment) (args : List String) : List String :=
  match Invocation.read env args with
  | .error _ => []
  | .ok i => i.config.elim (usualConfigurations env) ([·]) ++ i.command.paths

/-- Runs the program. -/
def respond (storage : Storage) (env : Environment) (args : List String) : Response :=
  match Invocation.read env args with
  | .error stop => stop.response
  | .ok invocation =>
    let outcome := invocation.execute storage env
    ⟨outcome.status, outcome.stdout, outcome.stderr⟩

end Lexicon
