import Lexicon.Listing

/-!
# Arguments

How the arguments of the program are read.  Options may stand before and after operands, and after
`--` everything is an operand.  Short options can be written together, and the value of an option
can be attached to it or stand in the next argument, where it must not look like an option.  The
arguments are read from left to right: the first mistake, or the first wish for the version or for
help, ends the reading (`Stop`).
-/

namespace Lexicon.CommandLine

/-- The commands of the program. -/
inductive CommandName where
  | lex
  | check
  | names
  | normalize
  deriving DecidableEq, Repr

def CommandName.all : List CommandName := [.lex, .check, .names, .normalize]

instance : ToString CommandName where
  toString
    | .lex => "lex"
    | .check => "check"
    | .names => "names"
    | .normalize => "normalize"

def CommandName.ofString? (s : String) : Option CommandName :=
  CommandName.all.find? fun name => toString name = s

/-- Where an argument stands: before the command, or behind it. -/
abbrev Scope := Option CommandName

/-- Why the reading of arguments ends early. -/
inductive Stop where
  | usage
  | version (scope : Scope)
  | help (scope : Scope)
  deriving DecidableEq, Repr

/-- An option without a value. -/
inductive Flag where
  | verbose
  | noColor
  | spans
  | codePoints
  | version
  | help
  deriving DecidableEq, Repr

/-- An option with a value. -/
inductive Parameter where
  | config
  | format
  | recovery
  | jobs
  | lookup
  deriving DecidableEq, Repr

inductive Switch where
  | flag (f : Flag)
  | parameter (p : Parameter)
  deriving DecidableEq, Repr

/-- How an option is written. -/
structure SwitchSpelling where
  short : Option Char
  long : String
  switch : Switch
  deriving DecidableEq, Repr

/-- The options that every command has, which may also stand before the command. -/
def commonSwitches : List SwitchSpelling :=
  [⟨some 'v', "verbose", .flag .verbose⟩, ⟨some 'c', "config", .parameter .config⟩,
    ⟨none, "no-color", .flag .noColor⟩, ⟨some 'h', "help", .flag .help⟩,
    ⟨some 'V', "version", .flag .version⟩]

def recoverySwitch : SwitchSpelling := ⟨some 'r', "recovery", .parameter .recovery⟩

/-- The options that a command has for itself. -/
def CommandName.switches : CommandName → List SwitchSpelling
  | lex =>
    [⟨some 'F', "format", .parameter .format⟩, recoverySwitch, ⟨some 's', "spans", .flag .spans⟩]
  | check => [⟨some 'j', "jobs", .parameter .jobs⟩, recoverySwitch]
  | names => [⟨some 'l', "lookup", .parameter .lookup⟩, recoverySwitch]
  | normalize => [⟨none, "codepoints", .flag .codePoints⟩]

def switches (scope : Scope) : List SwitchSpelling :=
  commonSwitches ++ scope.elim [] CommandName.switches

def longSwitch? (scope : Scope) (name : String) : Option Switch :=
  ((switches scope).find? (·.long == name)).map (·.switch)

def shortSwitch? (scope : Scope) (c : Char) : Option Switch :=
  ((switches scope).find? (·.short == some c)).map (·.switch)

/-! ## Values -/

/-- The arguments in one scope. -/
structure Given where
  flags : List Flag := []
  config : Option String := none
  format : Option ListingFormat := none
  recovery : Option RecoveryPolicy := none
  jobs : Option Nat := none
  lookup : Option String := none
  /-- The operands, last one first. -/
  operands : List String := []
  deriving DecidableEq, Repr

/-- A path, which must not be empty. -/
def path? (s : String) : Option String := if s.isEmpty then none else some s

/-- A number of 32 bits, in decimal digits with an optional sign. -/
def word? (s : String) : Option Nat :=
  let (negative, digits) := match s.toList with
    | '-' :: digits => (true, digits)
    | '+' :: digits => (false, digits)
    | digits => (false, digits)
  if digits.isEmpty || !digits.all Char.isDigit then none
  else
    let n := digits.foldl (fun n c => n * 10 + (c.toNat - '0'.toNat)) 0
    if n < UInt32.size ∧ (negative → n = 0) then some n else none

namespace Given

/-- Takes the value of an option that has none yet. -/
def once {α : Type} (old new : Option α) : Except Stop (Option α) :=
  match old, new with
  | none, some a => .ok (some a)
  | _, _ => .error .usage

def setParameter (g : Given) (value : String) : Parameter → Except Stop Given
  | .config => (once g.config (path? value)).map fun config => { g with config }
  | .format =>
    (once g.format (ListingFormat.ofString? value)).map fun format => { g with format }
  | .recovery =>
    (once g.recovery (RecoveryPolicy.ofString? value)).map fun recovery => { g with recovery }
  | .jobs => (once g.jobs (word? value)).map fun jobs => { g with jobs }
  | .lookup => (once g.lookup (some value)).map fun lookup => { g with lookup }

def setFlag (g : Given) (scope : Scope) : Flag → Except Stop Given
  | .version => .error (.version scope)
  | .help => .error (.help scope)
  | f => if f ∈ g.flags then .error .usage else .ok { g with flags := f :: g.flags }

/-- Adds an operand: a word, or the path of a file, of which the names command takes only one. -/
def addOperand (g : Given) (scope : Scope) (value : String) : Except Stop Given :=
  let accepted := match scope with
    | none => false
    | some .normalize => true
    | some .names => g.operands.isEmpty && (path? value).isSome
    | some _ => (path? value).isSome
  if accepted then .ok { g with operands := value :: g.operands } else .error .usage

end Given

/-! ## Reading -/

/-- Reads short options that are written together.  An option that still needs its value is
returned. -/
def readCluster (scope : Scope) (g : Given) : List Char → Except Stop (Given × Option Parameter)
  | [] => .ok (g, none)
  | c :: cs =>
    match shortSwitch? scope c, cs with
    | none, _ => .error .usage
    | some (.flag f), cs => do readCluster scope (← g.setFlag scope f) cs
    | some (.parameter p), [] => .ok (g, some p)
    | some (.parameter p), '=' :: value =>
      (g.setParameter (String.ofList value) p).map (·, none)
    | some (.parameter p), value => (g.setParameter (String.ofList value) p).map (·, none)

/-- Reads a long option, as what follows its two dashes. -/
def readLong (scope : Scope) (g : Given) (text : List Char) :
    Except Stop (Given × Option Parameter) :=
  let name := String.ofList (text.takeWhile (· != '='))
  let value := (text.dropWhile (· != '=')).tail?.map String.ofList
  match longSwitch? scope name, value with
  | some (.flag f), none => (g.setFlag scope f).map (·, none)
  | some (.parameter p), none => .ok (g, some p)
  | some (.parameter p), some value => (g.setParameter value p).map (·, none)
  | _, _ => .error .usage

/-- Whether an argument looks like options. -/
def looksLikeOption (arg : String) : Bool :=
  match arg.toList with
  | '-' :: _ :: _ => true
  | _ => false

/-- Reads a single argument.  An option that still needs its value is returned. -/
def readArgument (scope : Scope) (g : Given) (arg : String) :
    Except Stop (Given × Option Parameter) :=
  match arg.toList with
  | '-' :: '-' :: text => readLong scope g text
  | '-' :: c :: cs => readCluster scope g (c :: cs)
  | _ => (g.addOperand scope arg).map (·, none)

/-- Reads the arguments behind a command. -/
def readCommand (command : CommandName) (g : Given) : List String → Except Stop Given
  | [] => .ok g
  | "--" :: rest => rest.foldlM (fun g arg => g.addOperand (some command) arg) g
  | arg :: rest => do
    match ← readArgument (some command) g arg, rest with
    | (g, none), rest => readCommand command g rest
    | (g, some p), value :: rest =>
      if looksLikeOption value then .error .usage
      else readCommand command (← g.setParameter value p) rest
    | (_, some _), [] => .error .usage

/-- Reads the arguments up to the command; also returns that and the arguments behind it. -/
def readCommon (g : Given) : List String → Except Stop (Given × CommandName × List String)
  | [] => .error .usage
  | "--" :: _ => .error .usage
  | ["help"] => .error (.help none)
  | ["help", name] =>
    match CommandName.ofString? name with
    | some command => .error (.help (some command))
    | none => .error (if name = "help" then .help none else .usage)
  | arg :: rest => do
    if let some command := CommandName.ofString? arg then return (g, command, rest)
    match ← readArgument none g arg, rest with
    | (g, none), rest => readCommon g rest
    | (g, some p), value :: rest =>
      if looksLikeOption value then .error .usage
      else readCommon (← g.setParameter value p) rest
    | (_, some _), [] => .error .usage

end Lexicon.CommandLine
