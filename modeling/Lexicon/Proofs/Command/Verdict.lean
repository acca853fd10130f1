import Lexicon.Proofs.Command.CheckFiles

/-!
# The verdict on files

Two commands pass a verdict on files: the one that lists their tokens, and ends at the first file
that cannot be read or lexed, and the one that checks them all.  Both succeed exactly on the files
that are clean (`failure_listFrom_eq_none_iff`, `failure_check_eq_none_iff`), which does not
depend on the policy; so their verdicts are the same (`verdicts_agree`).
-/

namespace Lexicon

open Source CommandLine

/-! ## Listing -/

namespace ListingOptions

variable (options : ListingOptions) {storage : Storage} {path : String} {map : SourceMap}
  (symbols : SymbolTable) (errors : Nat) (paths : List String)

theorem failure_listFrom_of_error {e : CommandError} (h : readSource storage path = .error e) :
    (options.listFrom storage map symbols errors (path :: paths)).failure = some e := by
  rw [listFrom, loadSource_eq_error h]
  rfl

/-- A file whose lexing fails ends the listing; behind any other the listing goes on. -/
theorem failure_listFrom_of_ok {text : List Char} (h : readSource storage path = .ok text) :
    (options.listFrom storage map symbols errors (path :: paths)).failure =
      match (options.lexing.lex (map.addFile path text).1 symbols).result with
      | .error e => some (.lexing e)
      | .ok _ =>
        (options.listFrom storage (map.addFile path text).2
          (options.lexing.lex (map.addFile path text).1 symbols).symbols
          (errors + (options.lexing.lex (map.addFile path text).1 symbols).count .error)
          paths).failure := by
  rw [listFrom, loadSource_eq_ok h]
  simp only [Outcome.after]
  cases (options.lexing.lex (map.addFile path text).1 symbols).result <;> rfl

/-- The listing succeeds if no errors were reported before and all files are clean. -/
theorem failure_listFrom_eq_none_iff :
    (options.listFrom storage map symbols errors paths).failure = none ↔
      errors = 0 ∧ ∀ path ∈ paths, IsClean storage options.lexing.options path := by
  induction paths generalizing map symbols errors with
  | nil =>
    rw [listFrom]
    split_ifs with herrors
    · simp [herrors]
    · simp [herrors, Outcome.failed]
  | cons path paths ih =>
    rw [List.forall_mem_cons]
    cases hread : readSource storage path with
    | error e =>
      rw [failure_listFrom_of_error _ _ _ _ hread]
      exact iff_of_false (Option.some_ne_none e) fun h => not_isClean hread _ h.2.1
    | ok text =>
      have hpasses : (options.lexing.lex (map.addFile path text).1 symbols).Passes ↔
          errorsIn options.lexing.options text = 0 := passes_lex_iff _ _ _
      rw [failure_listFrom_of_ok _ _ _ _ hread, isClean_iff hread, ← hpasses, LexedFile.Passes]
      cases hresult : (options.lexing.lex (map.addFile path text).1 symbols).result with
      | error e =>
        refine iff_of_false (Option.some_ne_none _) ?_
        rintro ⟨-, ⟨⟨tokens, hok⟩, -⟩, -⟩
        cases hok
      | ok tokens =>
        simp only [ih, Nat.add_eq_zero_iff]
        constructor
        · rintro ⟨⟨herrors, hcount⟩, hpaths⟩
          exact ⟨herrors, ⟨⟨tokens, rfl⟩, hcount⟩, hpaths⟩
        · rintro ⟨herrors, ⟨-, hcount⟩, hpaths⟩
          exact ⟨⟨herrors, hcount⟩, hpaths⟩

/-- With the policy that skips lines, the errors of all files are summed. -/
theorem failure_listFrom_skipLine (hpolicy : options.lexing.policy = .skipLine)
    (hread : ∀ path ∈ paths, ∃ text, readSource storage path = .ok text) :
    (options.listFrom storage map symbols errors paths).failure =
      let sum := errors + (paths.map (errorsAt storage options.lexing.options)).sum
      if sum = 0 then none else some (.errorsReported sum) := by
  induction paths generalizing map symbols errors with
  | nil =>
    rw [listFrom]
    simp only [List.map_nil, List.sum_nil, Nat.add_zero]
    split_ifs <;> rfl
  | cons path paths ih =>
    rw [List.forall_mem_cons] at hread
    obtain ⟨⟨text, htext⟩, hread⟩ := hread
    have hlexing : options.lexing = ⟨options.lexing.options, .skipLine⟩ := by rw [← hpolicy]
    obtain ⟨⟨tokens, hok⟩, hcount⟩ :=
      count_error_lex_skipLine options.lexing.options (map.addFile path text).1 symbols
    rw [← hlexing] at hok hcount
    have herrors : errorsAt storage options.lexing.options path =
        errorsIn options.lexing.options text := by
      rw [errorsAt, htext]
    rw [failure_listFrom_of_ok _ _ _ _ htext, hok]
    simp only [ih _ _ hread, hcount, List.map_cons, List.sum_cons, herrors, Nat.add_assoc]
    rfl

end ListingOptions

/-! ## Checking -/

section Check

variable {lexing : Lexing} {storage : Storage} (paths : List String)

theorem failure_check_eq_none_iff :
    (checkOutcome (paths.map fun path => (path, lexing.report storage path))).failure = none ↔
      ∀ path ∈ paths, IsClean storage lexing.options path := by
  rw [failure_checkOutcome_eq_none_iff, List.countP_map, List.countP_eq_zero]
  simp [← isFailure_report_eq_false_iff]

end Check

/-! ## Both commands -/

/-- The outcome of listing the tokens, where the configuration is valid. -/
theorem execute_lex {storage : Storage} {env : Environment} {i : Invocation}
    {settings : Settings} (hsettings : loadSettings storage env i.config = .ok settings)
    (format : ListingFormat) (recovery : Option RecoveryPolicy) (spans : Bool)
    (paths : List String) :
    { i with command := .lex format recovery spans paths }.execute storage env =
      ListingOptions.list ⟨settings.lex.lexing recovery, format, spans || settings.lex.showSpans⟩
        storage paths := by
  unfold Invocation.execute
  rw [hsettings]
  rfl

/-- Listing the tokens of files and checking the files end with one exit status, in either format
and under either policy.  Where all files can be read and rejected lines are skipped, the error that
the listing ends with counts as many errors as the check sums up. -/
theorem verdicts_agree {storage : Storage} {env : Environment} (i : Invocation)
    {settings : Settings} (hsettings : loadSettings storage env i.config = .ok settings)
    {jobs : Option Nat} (hjobs : jobs ≠ some 0) (paths : List String) :
    (∃ status : Nat, (status = 0 ∨ status = 1) ∧
      (status = 0 ↔ ∀ path ∈ paths, IsClean storage settings.lex.options path) ∧
      (∀ format recovery spans,
        ({ i with command := .lex format recovery spans paths }.execute storage env).status =
          status) ∧
      ∀ recovery,
        ({ i with command := .check recovery jobs paths }.execute storage env).status = status) ∧
    ((∀ path ∈ paths, ∃ text, readSource storage path = .ok text) →
      ∀ format recovery spans recovery', recovery.getD settings.lex.recovery = .skipLine →
        recovery'.getD settings.lex.recovery = .skipLine →
        ∃ errors warnings : Nat,
          ({ i with command := .lex format recovery spans paths }.execute storage
            env).failure.map CommandError.message =
              (if errors = 0 then none
              else some s!"Command execution failed: {errors} error(s) while lexing") ∧
          ({ i with command := .check recovery' jobs paths }.execute storage env).out.getLast? =
            some s!"checked {paths.length} file(s): {errors} error(s), {warnings} warning(s)") := by
  have hlex : ∀ format recovery spans,
      ({ i with command := .lex format recovery spans paths }.execute storage env).failure = none ↔
        ∀ path ∈ paths, IsClean storage settings.lex.options path := by
    intro format recovery spans
    rw [execute_lex hsettings, ListingOptions.list, ListingOptions.failure_listFrom_eq_none_iff]
    exact and_iff_right rfl
  have hcheck : ∀ recovery,
      ({ i with command := .check recovery jobs paths }.execute storage env).failure = none ↔
        ∀ path ∈ paths, IsClean storage settings.lex.options path := by
    intro recovery
    rw [execute_check hsettings hjobs]
    exact failure_check_eq_none_iff paths
  constructor
  · refine ⟨({ i with command := .check none jobs paths }.execute storage env).status,
      ?_, ?_, ?_, ?_⟩
    · unfold Outcome.status
      split_ifs <;> simp
    · rw [Outcome.status_eq_zero_iff]
      exact hcheck none
    · intro format recovery spans
      exact Outcome.status_eq_of_iff ((hlex format recovery spans).trans (hcheck none).symm)
    · intro recovery
      exact Outcome.status_eq_of_iff ((hcheck recovery).trans (hcheck none).symm)
  · intro hread format recovery spans recovery' hskip hskip'
    refine ⟨(paths.map (errorsAt storage settings.lex.options)).sum,
      (paths.map fun path =>
        ((settings.lex.lexing recovery').report storage path).warnings).sum, ?_, ?_⟩
    · have hoptions : (settings.lex.lexing recovery).options = settings.lex.options := rfl
      rw [execute_lex hsettings, ListingOptions.list,
        ListingOptions.failure_listFrom_skipLine _ _ _ _ hskip hread]
      simp only [Nat.zero_add, hoptions]
      split_ifs <;> rfl
    · have herrors : ∀ path,
          ((settings.lex.lexing recovery').report storage path).errors =
            errorsAt storage settings.lex.options path := fun path => errors_report hskip'
      rw [execute_check hsettings hjobs, getLast?_out_checkOutcome]
      simp only [List.map_map, Function.comp_def, List.length_map, herrors]
      rfl

/-- A storage with two files, of which the first has two errors. -/
def storageOfErrors : Storage where
  read path :=
    if path = "a" then .ok "€\n$\n".toUTF8
    else if path = "b" then .ok "x = 1\n".toUTF8
    else .error .notFound

/-- Both commands fail on the file with errors, and count them. -/
theorem verdicts_agree_two_errors :
    loadSettings storageOfErrors {} none = .ok {} ∧ (some 2 : Option Nat) ≠ some 0 ∧
      (∀ path ∈ ["a", "b"], ∃ text, readSource storageOfErrors path = .ok text) ∧
      (∀ format recovery, (Invocation.execute storageOfErrors {}
        ⟨false, false, none, .lex format recovery false ["a", "b"]⟩).status = 1) ∧
      (∀ recovery, (Invocation.execute storageOfErrors {}
        ⟨false, false, none, .check recovery (some 2) ["a", "b"]⟩).status = 1) ∧
      ∃ errors warnings : Nat,
        (Invocation.execute storageOfErrors {} ⟨false, false, none,
          .lex .text (some .skipLine) false ["a", "b"]⟩).failure.map CommandError.message =
            some s!"Command execution failed: {errors} error(s) while lexing" ∧
        (Invocation.execute storageOfErrors {} ⟨false, false, none,
          .check (some .skipLine) (some 2) ["a", "b"]⟩).out.getLast? =
            some s!"checked 2 file(s): {errors} error(s), {warnings} warning(s)" := by
  have hsettings : loadSettings storageOfErrors {} none = .ok {} := by
    decide +kernel
  have hjobs : (some 2 : Option Nat) ≠ some 0 := by
    decide
  have hread : ∀ path ∈ ["a", "b"], ∃ text, readSource storageOfErrors path = .ok text := by
    have ha : readSource storageOfErrors "a" = .ok "€\n$\n".toList := by
      decide +kernel
    have hb : readSource storageOfErrors "b" = .ok "x = 1\n".toList := by
      decide +kernel
    simp [ha, hb]
  have hfailure : (Invocation.execute storageOfErrors {}
      ⟨false, false, none, .lex .text (some .skipLine) false ["a", "b"]⟩).failure =
        some (.errorsReported 2) := by
    decide +kernel
  obtain ⟨⟨status, -, -, hlex, hcheck⟩, hcounts⟩ :=
    verdicts_agree ⟨false, false, none, .normalize false []⟩ hsettings hjobs ["a", "b"]
  obtain rfl : 1 = status := by
    rw [← hlex .text (some .skipLine) false, Outcome.status, hfailure]
    rfl
  obtain ⟨errors, warnings, hmessage, hline⟩ :=
    hcounts hread .text (some .skipLine) false (some .skipLine) rfl rfl
  refine ⟨hsettings, hjobs, hread, fun format recovery => hlex format recovery false, hcheck,
    errors, warnings, ?_, hline⟩
  have hne : errors ≠ 0 := by
    rintro rfl
    rw [hfailure] at hmessage
    cases hmessage
  rw [hmessage, if_neg hne]

end Lexicon
