import Lexicon.CommandLine.Arguments

/-!
# Invocations

An invocation of the program is a command with its options, from the arguments and from variables
of the environment, which stand in for common options that are not given.  Its command has at least
one operand (`Invocation.operands_ne_nil_of_read`).
-/

namespace Lexicon.CommandLine

inductive Command where
  | lex (format : ListingFormat) (recovery : Option RecoveryPolicy) (spans : Bool)
    (paths : List String)
  | check (recovery : Option RecoveryPolicy) (jobs : Option Nat) (paths : List String)
  | names (recovery : Option RecoveryPolicy) (lookup : Option String) (path : String)
  | normalize (codePoints : Bool) (words : List String)
  deriving DecidableEq, Repr

/-- The paths or words that a command is about. -/
def Command.operands : Command → List String
  | lex _ _ _ paths => paths
  | check _ _ paths => paths
  | names _ _ path => [path]
  | normalize _ words => words

/-- The paths of the files that a command reads. -/
def Command.paths : Command → List String
  | lex _ _ _ paths => paths
  | check _ _ paths => paths
  | names _ _ path => [path]
  | normalize _ _ => []

/-- A command with its common options.  Only the log depends on `verbose` and on `noColor`. -/
structure Invocation where
  verbose : Bool
  noColor : Bool
  /-- The path of the configuration file. -/
  config : Option String
  command : Command
  deriving DecidableEq, Repr

/-- What the environment of the program says. -/
structure Environment where
  verbose : Option String := none
  noColor : Option String := none
  config : Option String := none
  /-- The home directory of the user. -/
  home : Option String := none
  /-- The directory for configuration files. -/
  configHome : Option String := none
  deriving DecidableEq, Repr

/-- The names of the variables that describe an environment. -/
def Environment.variables : List String :=
  ["SABLET_VERBOSE", "SABLET_NO_COLOR", "SABLET_CONFIG", "HOME", "XDG_CONFIG_HOME"]

/-- The environment that variables describe.  The directory for configuration files has to be an
absolute path; otherwise it is one below the home directory. -/
def Environment.ofVariables (get : String → Option String) : Environment :=
  let home := (get "HOME").filter (!·.isEmpty)
  { verbose := get "SABLET_VERBOSE"
    noColor := get "SABLET_NO_COLOR"
    config := get "SABLET_CONFIG"
    home
    configHome := ((get "XDG_CONFIG_HOME").filter fun dir => dir.toList.head? = some '/').or
      (home.map (· ++ "/.config")) }

/-- The truth value that a variable gives a flag. -/
def truth? (s : String) : Option Bool :=
  if s = "true" then some true else if s = "false" then some false else none

/-- Whether the variables that stand in for options missing in a scope have proper values. -/
def Environment.fits (env : Environment) (g : Given) : Bool :=
  (.verbose ∈ g.flags || env.verbose.all fun s => (truth? s).isSome) &&
    (.noColor ∈ g.flags || env.noColor.all fun s => (truth? s).isSome) &&
      (g.config.isSome || env.config.all fun s => (path? s).isSome)

/-- The command with the arguments behind it.  All but the names command take one or more
operands. -/
def Given.command? (g : Given) (name : CommandName) : Option Command :=
  match name, g.operands.reverse with
  | _, [] => none
  | .lex, paths => some (.lex (g.format.getD .text) g.recovery (.spans ∈ g.flags) paths)
  | .check, paths => some (.check g.recovery g.jobs paths)
  | .names, path :: _ => some (.names g.recovery g.lookup path)
  | .normalize, words => some (.normalize (.codePoints ∈ g.flags) words)

/-- The invocation that arguments describe.  What is given behind the command comes before what is
given in front of it, and that before the environment. -/
def Invocation.read (env : Environment) (args : List String) : Except Stop Invocation := do
  let (front, name, rest) ← readCommon {} args
  let back ← readCommand name {} rest
  match back.command? name with
  | none => throw .usage
  | some command =>
    if env.fits back && env.fits front then
      let isGiven (f : Flag) : Bool := f ∈ front.flags || f ∈ back.flags
      return {
        verbose := isGiven .verbose || env.verbose == some "true"
        noColor := isGiven .noColor || env.noColor == some "true"
        config := (back.config.or front.config).or env.config
        command }
    else throw .usage

/-! ## Operands -/

theorem Given.operands_ne_nil_of_command? {g : Given} {name : CommandName} {command : Command}
    (h : g.command? name = some command) : command.operands ≠ [] := by
  unfold command? at h
  cases hoperands : g.operands.reverse with
  | nil => simp [hoperands] at h
  | cons operand operands =>
    cases name with
    | lex | check | names | normalize =>
      simp only [hoperands, Option.some.injEq] at h
      subst h
      exact List.cons_ne_nil _ _

namespace Invocation

variable {env : Environment} {args : List String} {i : Invocation}

/-- An invocation has the command that is described behind its name. -/
theorem exists_command?_of_read (h : read env args = .ok i) :
    ∃ (g : Given) (name : CommandName), g.command? name = some i.command := by
  unfold read at h
  -- Each step of the reading can stop it; the last one only looks at the environment.
  cases hfront : readCommon {} args with
  | error stop => simp [hfront, bind, Except.bind] at h
  | ok split =>
    obtain ⟨front, name, rest⟩ := split
    cases hback : readCommand name {} rest with
    | error stop => simp [hfront, hback, bind, Except.bind] at h
    | ok back =>
      refine ⟨back, name, ?_⟩
      cases hcommand : back.command? name with
      | none =>
        simp only [hfront, hback, hcommand, bind, Except.bind] at h
        cases h
      | some command =>
        simp only [hfront, hback, hcommand, bind, Except.bind] at h
        split at h
        · cases h
          rfl
        · cases h

/-- The arguments hold a path or a word for the command to be about. -/
theorem operands_ne_nil_of_read (h : read env args = .ok i) : i.command.operands ≠ [] := by
  obtain ⟨g, name, hcommand⟩ := exists_command?_of_read h
  exact g.operands_ne_nil_of_command? hcommand

end Invocation

end Lexicon.CommandLine
