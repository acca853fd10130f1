import Mathlib
import Lexicon.Proofs.Command.LexedFile
import Lexicon.Program

/-!
# Checks of files

Every report is about its own file: checking files one after another gives each the report that it
has alone (`checkFiles_eq`).  A report counts the errors of the file's text (`errors_report`), and
it is no failure exactly if the file can be read and has none (`isFailure_report_eq_false_iff`).
-/

namespace Lexicon

open Source CommandLine

/-! ## Reports -/

/-- The report of the file at a path, checked alone. -/
def Lexing.report (lexing : Lexing) (storage : Storage) (path : String) : FileReport :=
  (lexing.checkFile storage {} path).1

/-- The file at a path can be read, and no error is reported about its text. -/
def IsClean (storage : Storage) (options : LexOptions) (path : String) : Prop :=
  ∃ text, readSource storage path = .ok text ∧ errorsIn options text = 0

/-- The number of errors in the file at a path, 0 if it cannot be read. -/
def errorsAt (storage : Storage) (options : LexOptions) (path : String) : Nat :=
  match readSource storage path with
  | .ok text => errorsIn options text
  | .error _ => 0

section Reports

variable {lexing : Lexing} {storage : Storage} {path : String}

theorem loadSource_eq_ok {text : List Char} (h : readSource storage path = .ok text)
    (map : SourceMap) : loadSource storage map path = .ok (map.addFile path text) := by
  rw [loadSource, h]
  rfl

theorem loadSource_eq_error {e : CommandError} (h : readSource storage path = .error e)
    (map : SourceMap) : loadSource storage map path = .error e := by
  rw [loadSource, h]
  rfl

theorem checkFile_eq_error {e : CommandError} (h : readSource storage path = .error e)
    (symbols : SymbolTable) : lexing.checkFile storage symbols path = (.error e, symbols) := by
  rw [Lexing.checkFile, loadSource_eq_error h]

theorem checkFile_eq_ok {text : List Char} (h : readSource storage path = .ok text)
    (symbols : SymbolTable) :
    lexing.checkFile storage symbols path =
      (.ok (.of (SourceMap.addFile {} path text).2
        (lexing.lex (SourceMap.addFile {} path text).1 symbols)),
        (lexing.lex (SourceMap.addFile {} path text).1 symbols).symbols) := by
  rw [Lexing.checkFile, loadSource_eq_ok h]

/-- The symbols of the files before leave no trace in a report. -/
theorem fst_checkFile (lexing : Lexing) (storage : Storage) (symbols : SymbolTable)
    (path : String) : (lexing.checkFile storage symbols path).1 = lexing.report storage path := by
  rw [Lexing.report]
  cases h : readSource storage path with
  | error e => rw [checkFile_eq_error h, checkFile_eq_error h]
  | ok text =>
    rw [checkFile_eq_ok h, checkFile_eq_ok h]
    exact congrArg Except.ok ((alike_lex lexing _ symbols {}).findings_eq _)

theorem checkFiles_eq (lexing : Lexing) (storage : Storage) (symbols : SymbolTable)
    (paths : List String) :
    lexing.checkFiles storage symbols paths =
      paths.map fun path => (path, lexing.report storage path) := by
  induction paths generalizing symbols with
  | nil => rfl
  | cons path paths ih =>
    rw [Lexing.checkFiles, List.map_cons, ← fst_checkFile lexing storage symbols]
    exact congrArg (_ :: ·) (ih _)

theorem isClean_iff {text : List Char} (h : readSource storage path = .ok text)
    (options : LexOptions) : IsClean storage options path ↔ errorsIn options text = 0 := by
  constructor
  · rintro ⟨text', htext, hnone⟩
    rw [h] at htext
    cases htext
    exact hnone
  · exact fun hnone => ⟨text, h, hnone⟩

theorem not_isClean {e : CommandError} (h : readSource storage path = .error e)
    (options : LexOptions) : ¬ IsClean storage options path := by
  rintro ⟨text, htext, -⟩
  rw [h] at htext
  cases htext

/-- A file fails a check if it cannot be read, or if errors are reported about its text. -/
theorem isFailure_report_eq_false_iff :
    (lexing.report storage path).isFailure = false ↔ IsClean storage lexing.options path := by
  rw [Lexing.report]
  cases h : readSource storage path with
  | error e =>
    rw [checkFile_eq_error h]
    exact iff_of_false (Bool.noConfusion ·) (not_isClean h _)
  | ok text =>
    have hpasses : _ ↔ errorsIn lexing.options text = 0 :=
      passes_lex_iff lexing (SourceMap.addFile {} path text).1 {}
    rw [← LexedFile.countP_allDiagnostics_eq_zero_iff] at hpasses
    rw [checkFile_eq_ok h, isClean_iff h]
    simpa [FileReport.isFailure, FileFindings.of] using hpasses

/-- With the policy that skips lines, a report counts all errors. -/
theorem errors_report (h : lexing.policy = .skipLine) :
    (lexing.report storage path).errors = errorsAt storage lexing.options path := by
  obtain ⟨options, policy⟩ := lexing
  subst h
  rw [Lexing.report, errorsAt]
  cases h : readSource storage path with
  | error e =>
    rw [checkFile_eq_error h]
    rfl
  | ok text =>
    rw [checkFile_eq_ok h]
    obtain ⟨⟨tokens, hok⟩, hcount⟩ :=
      count_error_lex_skipLine options (SourceMap.addFile {} path text).1 {}
    exact (LexedFile.countP_allDiagnostics_of_ok hok .error).trans hcount

end Reports

/-! ## Sums -/

/-- The line with the sums over some files. -/
def summaryLine (files errors warnings : Nat) : String :=
  s!"checked {files} file(s): {errors} error(s), {warnings} warning(s)"

theorem checkSummary_eq (reports : List (String × FileReport)) :
    checkSummary reports =
      summaryLine reports.length (reports.map (·.2.errors)).sum
        (reports.map (·.2.warnings)).sum := by
  rw [List.sum_eq_foldl, List.sum_eq_foldl, List.foldl_map, List.foldl_map]
  rfl

theorem getLast?_out_checkOutcome (reports : List (String × FileReport)) :
    (checkOutcome reports).out.getLast? =
      some (summaryLine reports.length (reports.map (·.2.errors)).sum
        (reports.map (·.2.warnings)).sum) := by
  rw [← checkSummary_eq]
  exact List.getLast?_concat

theorem failure_checkOutcome_eq_none_iff (reports : List (String × FileReport)) :
    (checkOutcome reports).failure = none ↔ reports.countP (·.2.isFailure) = 0 := by
  simp [checkOutcome]

/-! ## Exit statuses -/

theorem Outcome.status_eq_zero_iff (o : Outcome) : o.status = 0 ↔ o.failure = none := by
  unfold status
  cases o.failure <;> simp

theorem Outcome.status_eq_of_iff {a b : Outcome} (h : a.failure = none ↔ b.failure = none) :
    a.status = b.status := by
  unfold status
  simp only [Option.isSome_iff_ne_none, ne_eq, h]

theorem Outcome.status_eq_one_iff (o : Outcome) : o.status = 1 ↔ o.failure ≠ none := by
  unfold status
  cases o.failure <;> simp

/-! ## Whole checks -/

theorem jobs_ne_zero_of_parseSettings {text : List Char} {settings : Settings}
    (h : parseSettings text = .ok settings) : settings.jobs ≠ some 0 := by
  unfold parseSettings at h
  split at h
  · cases h
  · split_ifs at h with hjobs
    cases h
    exact hjobs

theorem jobs_ne_zero_of_readSettings {storage : Storage} {path : String} {settings : Settings}
    (h : readSettings storage path = .ok settings) : settings.jobs ≠ some 0 := by
  unfold readSettings at h
  split_ifs at h
  split at h
  · cases h
  · split at h
    · cases h
    · exact jobs_ne_zero_of_parseSettings h

/-- No valid configuration wants no file at all to be checked at a time. -/
theorem jobs_ne_zero_of_loadSettings {storage : Storage} {env : Environment}
    {config : Option String} {settings : Settings}
    (h : loadSettings storage env config = .ok settings) : settings.jobs ≠ some 0 := by
  unfold loadSettings at h
  split at h
  · exact jobs_ne_zero_of_readSettings h
  · cases h
    nofun

/-- The outcome of the check command, where the configuration is valid and there is at least one
job. -/
theorem execute_check {storage : Storage} {env : Environment} {i : Invocation}
    {settings : Settings} (hsettings : loadSettings storage env i.config = .ok settings)
    {jobs : Option Nat} (hjobs : jobs ≠ some 0) (recovery : Option RecoveryPolicy)
    (paths : List String) :
    { i with command := .check recovery jobs paths }.execute storage env =
      checkOutcome (paths.map fun path =>
        (path, (settings.lex.lexing recovery).report storage path)) := by
  have hjobs' : jobs.or settings.jobs ≠ some 0 := by
    cases jobs with
    | none => exact jobs_ne_zero_of_loadSettings hsettings
    | some n => exact hjobs
  unfold Invocation.execute
  rw [hsettings]
  show (settings.lex.lexing recovery).check storage (jobs.or settings.jobs) paths = _
  rw [Lexing.check, if_neg hjobs', checkFiles_eq]

end Lexicon
