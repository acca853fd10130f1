import Lexicon.Proofs.Command.Workers

/-!
# Checks as sums

A check prints about its files what checking each of them alone prints, in the order of the files,
with the sums at the end (`Lexing.IsOrderedSum`).  This is so for every number of jobs and for every
order in which workers take their turns (`check_is_ordered_sum`).
-/

namespace Lexicon

open Source CommandLine

/-- The line about a file without errors. -/
def okLine (path : String) (identifiers : Nat) : String :=
  s!"{path}: ok ({identifiers} identifiers)"

/-- The number of identifiers among the tokens of the file at a path, if it can be read and nothing
about it is an error. -/
def Lexing.identifiers? (lexing : Lexing) (storage : Storage) (path : String) : Option Nat :=
  match readSource storage path with
  | .error _ => none
  | .ok text =>
    match tokenize (SourceMap.addFile {} path text).1 lexing.options lexing.policy {} {} with
    | (.error _, _) => none
    | (.ok tokens, lx) =>
      if lx.log.hasErrors then none else some (tokens.toList.countP (·.token.isIdent))

/-- What `check` prints about files is, in their order, what it prints about each alone, with the
sums of its totals. -/
structure Lexing.IsOrderedSum (lexing : Lexing) (storage : Storage)
    (check : List String → Outcome) (paths : List String) : Prop where
  out : ∃ errors warnings : String → Nat,
    (∀ path, (check [path]).out.getLast? =
      some (summaryLine 1 (errors path) (warnings path))) ∧
    (check paths).out = paths.flatMap (fun path => (check [path]).out.dropLast) ++
      [summaryLine paths.length (paths.map errors).sum (paths.map warnings).sum]
  err : (check paths).err = paths.flatMap fun path => (check [path]).err
  lines : ∀ path, (check [path]).out.dropLast =
    ((lexing.identifiers? storage path).map (okLine path)).toList
  status : (check paths).status = 1 ↔ ∃ path ∈ paths, lexing.identifiers? storage path = none
  message : (check paths).failure.map CommandError.message =
    let failed := paths.countP fun path => (lexing.identifiers? storage path).isNone
    if failed = 0 then none
    else some s!"Command execution failed: {failed} file(s) failed to check"

theorem DiagnosticLog.hasErrors_eq_false_iff (log : DiagnosticLog) :
    log.hasErrors = false ↔ log.entries.toList.countP (·.level == .error) = 0 := by
  rw [hasErrors, ← Array.any_toList, List.any_eq_false, List.countP_eq_zero]

namespace Lexing

variable (lexing : Lexing) (storage : Storage) (path : String)

/-- Either the identifiers of a file are counted, or its check fails. -/
theorem report_cases :
    (∃ findings, lexing.report storage path = .ok findings ∧ findings.errors = 0 ∧
      lexing.identifiers? storage path = some findings.identifiers) ∨
    (lexing.report storage path).isFailure ∧ lexing.identifiers? storage path = none := by
  rw [identifiers?, report]
  cases hread : readSource storage path with
  | error e =>
    rw [checkFile_eq_error hread]
    exact .inr ⟨rfl, rfl⟩
  | ok text =>
    rw [checkFile_eq_ok hread]
    cases hrun : tokenize (SourceMap.addFile {} path text).1 lexing.options lexing.policy {} {} with
    | mk result lx =>
      have hlex : lexing.lex (SourceMap.addFile {} path text).1 {} =
          ⟨(SourceMap.addFile {} path text).1, result, lx.symbols, lx.log.entries.toList⟩ := by
        rw [lex, hrun]
      rw [hlex]
      cases result with
      | error e =>
        refine .inr ⟨?_, by simp only [hrun]⟩
        apply decide_eq_true
        intro hzero
        obtain ⟨⟨tokens, hok⟩, -⟩ := (LexedFile.countP_allDiagnostics_eq_zero_iff _).1 hzero
        cases hok
      | ok tokens =>
        by_cases herrors : lx.log.hasErrors
        · refine .inr ⟨?_, by simp only [hrun, herrors, if_true]⟩
          apply decide_eq_true
          intro hzero
          rw [(DiagnosticLog.hasErrors_eq_false_iff lx.log).2 hzero] at herrors
          cases herrors
        · refine .inl ⟨_, rfl, ?_, ?_⟩
          · exact (DiagnosticLog.hasErrors_eq_false_iff lx.log).1 (by simpa using herrors)
          · simp only [hrun, if_neg herrors]
            rfl

theorem out_report :
    (lexing.report storage path).out path =
      ((lexing.identifiers? storage path).map (okLine path)).toList := by
  rcases lexing.report_cases storage path with ⟨findings, hreport, hzero, hn⟩ | ⟨hfails, hn⟩
  · rw [hreport, hn]
    exact if_pos hzero
  · rw [hn]
    cases hreport : lexing.report storage path with
    | error e => rfl
    | ok findings =>
      rw [hreport] at hfails
      exact if_neg (of_decide_eq_true hfails)

theorem isFailure_report :
    (lexing.report storage path).isFailure = (lexing.identifiers? storage path).isNone := by
  rcases lexing.report_cases storage path with ⟨findings, hreport, hzero, hn⟩ | ⟨hfails, hn⟩
  · rw [hreport, hn]
    exact decide_eq_false (not_not_intro hzero)
  · rw [hfails, hn]
    rfl

end Lexing

theorem dropLast_out_checkOutcome (reports : List (String × FileReport)) :
    (checkOutcome reports).out.dropLast = reports.flatMap fun (path, report) => report.out path :=
  List.dropLast_concat

/-- Reports of files alone make up an ordered sum. -/
theorem isOrderedSum_of_eq {lexing : Lexing} {storage : Storage} {check : List String → Outcome}
    (h : ∀ paths, check paths =
      checkOutcome (paths.map fun path => (path, lexing.report storage path)))
    (paths : List String) : lexing.IsOrderedSum storage check paths := by
  have halone : ∀ path, (check [path]).out.dropLast = (lexing.report storage path).out path := by
    intro path
    rw [h, dropLast_out_checkOutcome, List.map_singleton, List.flatMap_singleton]
  have hsummary : ∀ paths, (check paths).out.getLast? =
      some (summaryLine paths.length
        (paths.map fun path => (lexing.report storage path).errors).sum
        (paths.map fun path => (lexing.report storage path).warnings).sum) := by
    intro paths
    rw [h, getLast?_out_checkOutcome, List.length_map, List.map_map, List.map_map]
    rfl
  have hfailed : (paths.map fun path => (path, lexing.report storage path)).countP
      (·.2.isFailure) = paths.countP fun path => (lexing.identifiers? storage path).isNone := by
    rw [List.countP_map]
    exact List.countP_congr fun path _ => by simp [lexing.isFailure_report]
  constructor
  · refine ⟨fun path => (lexing.report storage path).errors,
      fun path => (lexing.report storage path).warnings, fun path => ?_, ?_⟩
    · rw [hsummary]
      simp only [List.length_singleton, List.map_singleton, List.sum_singleton]
    · simp only [halone]
      rw [← List.dropLast_append_getLast? _ (hsummary paths)]
      rw [h, dropLast_out_checkOutcome, List.flatMap_map]
  · have herr : ∀ paths, (check paths).err =
        paths.flatMap fun path => (lexing.report storage path).err := by
      intro paths
      rw [h]
      exact List.flatMap_map _ _ _
    simp only [herr, List.flatMap_singleton]
  · intro path
    rw [halone, lexing.out_report]
  · have hnone : ∀ path, lexing.identifiers? storage path = none ↔
        (lexing.identifiers? storage path).isNone := fun path => Option.isNone_iff_eq_none.symm
    rw [Outcome.status_eq_one_iff, h, Ne, failure_checkOutcome_eq_none_iff, hfailed, ← Ne,
      ← Nat.pos_iff_ne_zero, List.countP_pos_iff]
    simp only [hnone]
  · rw [h, checkOutcome, hfailed]
    simp only
    split_ifs <;> rfl

/-- Where the configuration is valid and there is at least one job, the check command prints the
ordered sum of its files.  Workers that share a table of symbols come to the same outcome in every
order of their turns, and they come to it when each has had enough of them. -/
theorem check_is_ordered_sum {storage : Storage} {env : Environment} (i : Invocation)
    {settings : Settings} (hsettings : loadSettings storage env i.config = .ok settings)
    {jobs : Option Nat} (hjobs : jobs ≠ some 0) (recovery : Option RecoveryPolicy)
    (paths : List String) :
    (settings.lex.lexing recovery).IsOrderedSum storage
      (fun paths => { i with command := .check recovery jobs paths }.execute storage env) paths ∧
    ∀ symbols : SymbolTable,
      (∀ (schedule : List Nat) (reports : List FileReport),
        ((Pool.start symbols paths).run (settings.lex.lexing recovery) storage schedule).tasks =
          reports.map .finished →
        { i with command := .check recovery jobs paths }.execute storage env =
          checkOutcome (paths.zip reports)) ∧
      ∃ turns, ∀ schedule : List Nat, (∀ k < paths.length, turns ≤ schedule.count k) →
        ∃ reports : List FileReport,
          ((Pool.start symbols paths).run (settings.lex.lexing recovery) storage schedule).tasks =
            reports.map .finished := by
  have hcheck := execute_check hsettings hjobs recovery
  refine ⟨isOrderedSum_of_eq hcheck paths, fun symbols => ⟨fun schedule reports h => ?_, ?_⟩⟩
  · rw [Pool.eq_of_run_start _ storage symbols paths h, hcheck, List.map_prod_left_eq_zip]
  · exact Pool.exists_reports_run _ storage symbols paths

/-- A storage with a clean file, `a`, and one with an error, `b`. -/
def storageOfMixed : Storage where
  read path :=
    if path = "a" then .ok "x = 1\n".toUTF8
    else if path = "b" then .ok "€\n".toUTF8
    else .error .notFound

/-- Three workers take turns, and find that one file of three is clean. -/
theorem check_is_ordered_sum_mixed :
    ∃ (schedule : List Nat) (reports : List FileReport) (outcome : Outcome),
      loadSettings storageOfMixed {} none = .ok {} ∧ (some 3 : Option Nat) ≠ some 0 ∧
      Invocation.execute storageOfMixed {}
        ⟨false, false, none, .check none (some 3) ["a", "b", "c"]⟩ = outcome ∧
      Lexing.IsOrderedSum ⟨{}, .abort⟩ storageOfMixed (fun paths =>
        Invocation.execute storageOfMixed {} ⟨false, false, none, .check none (some 3) paths⟩)
        ["a", "b", "c"] ∧
      ((Pool.start {} ["a", "b", "c"]).run ⟨{}, .abort⟩ storageOfMixed schedule).tasks =
        reports.map .finished ∧
      outcome = checkOutcome (["a", "b", "c"].zip reports) ∧
      outcome.out = ["a: ok (1 identifiers)", "checked 3 file(s): 1 error(s), 0 warning(s)"] ∧
      outcome.failure = some (.filesFailed 2) := by
  have hsettings : loadSettings storageOfMixed {} none = .ok {} := by
    decide +kernel
  have hjobs : (some 3 : Option Nat) ≠ some 0 := by
    decide
  have hout : (Invocation.execute storageOfMixed {}
      ⟨false, false, none, .check none (some 3) ["a", "b", "c"]⟩).out =
        ["a: ok (1 identifiers)", "checked 3 file(s): 1 error(s), 0 warning(s)"] := by
    decide +kernel
  have hfailure : (Invocation.execute storageOfMixed {}
      ⟨false, false, none, .check none (some 3) ["a", "b", "c"]⟩).failure =
        some (.filesFailed 2) := by
    decide +kernel
  obtain ⟨hsum, hworkers⟩ := check_is_ordered_sum ⟨false, false, none, .normalize false []⟩
    hsettings hjobs none ["a", "b", "c"]
  obtain ⟨houtcome, turns, hturns⟩ := hworkers {}
  have hrounds : ∀ k < ["a", "b", "c"].length,
      turns ≤ (List.replicate turns [2, 0, 1]).flatten.count k := by
    intro k hk
    have hone : [2, 0, 1].count k = 1 := by
      have hk' : k = 0 ∨ k = 1 ∨ k = 2 := by
        simp only [List.length_cons, List.length_nil] at hk
        omega
      rcases hk' with rfl | rfl | rfl <;> rfl
    simp [List.count_flatten, hone]
  obtain ⟨reports, hreports⟩ := hturns _ hrounds
  exact ⟨_, reports, _, hsettings, hjobs, rfl, hsum, hreports, houtcome _ _ hreports, hout,
    hfailure⟩

end Lexicon
