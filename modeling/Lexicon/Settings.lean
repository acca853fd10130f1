import Lexicon.Lexer.Recovery
import Lexicon.Toml.Value

/-!
# Settings

The settings that a configuration file can make, and how they are read from its TOML table.  A
setting that is missing keeps its default, a setting that is unknown is skipped, and a value of the
wrong type spoils the whole file.
-/

namespace Lexicon

open Toml (Value Entries)

/-- Settings of the lexer. -/
structure LexSettings where
  recovery : RecoveryPolicy := .abort
  showSpans : Bool := false
  warnNormalized : Bool := false
  deriving DecidableEq, Repr

def LexSettings.options (settings : LexSettings) : LexOptions := ⟨settings.warnNormalized⟩

structure Settings where
  /-- Whether to log more; nothing else depends on it. -/
  verbose : Bool := false
  lex : LexSettings := {}
  /-- The number of files that are checked at a time; by default, one for each processor. -/
  jobs : Option Nat := none
  deriving DecidableEq, Repr

namespace Settings

/-- The value of the field `name` of a group of settings, which has the place `index` in it.  A
group is a table, or an array in the order of the fields; a date is a group without fields. -/
def field? (group : Value) (name : String) (index : Nat) : Option (Option Value) :=
  match group with
  | .table _ entries => some (entries.lookup name)
  | .dateTime _ => some none
  | group => group.elements?.map (·[index]?)

/-- Reads a value if there is one, and takes the default if there is none. -/
def orDefault {α : Type} (default : α) (decode : Value → Option α) : Option Value → Option α
  | some v => decode v
  | none => some default

def boolean? : Value → Option Bool
  | .boolean b => some b
  | _ => none

/-- A number of 32 bits. -/
def word? : Value → Option Nat
  | .integer n => if 0 ≤ n ∧ n.toNat < UInt32.size then some n.toNat else none
  | _ => none

/-- Whether a value is a table or an array with nothing in it. -/
def isEmptyGroup : Value → Bool
  | .table _ entries => entries.isEmpty
  | v => v.elements?.any List.isEmpty

/-- A policy is named by a string, or by the only key of a table whose value is empty. -/
def recovery? : Value → Option RecoveryPolicy
  | .string s => RecoveryPolicy.ofString? s
  | .table _ [(name, v)] => if isEmptyGroup v then RecoveryPolicy.ofString? name else none
  | _ => none

def lexSettings? (group : Value) : Option LexSettings := do
  return {
    recovery := ← orDefault .abort recovery? (← field? group "recovery" 0)
    showSpans := ← orDefault false boolean? (← field? group "show_spans" 1)
    warnNormalized := ← orDefault false boolean? (← field? group "warn_normalized" 2) }

def jobs? (group : Value) : Option (Option Nat) := do
  orDefault none (fun v => (word? v).map some) (← field? group "jobs" 0)

/-- The settings in the table of a configuration file. -/
def ofEntries? (entries : Entries) : Option Settings := do
  return {
    verbose := ← orDefault false boolean? (entries.lookup "verbose")
    lex := ← orDefault {} lexSettings? (entries.lookup "lex")
    jobs := ← orDefault none jobs? (entries.lookup "check") }

end Settings

end Lexicon
