import Lexicon.Proofs.Command.CheckFiles

/-!
# Workers

Files can be checked by workers side by side.  They share the table of symbols, and take turns in
any order: in one turn a worker loads its file, or reads one token, and so interns one name at most.
Whatever the order, a file gets the report that it has alone (`map_report_run`), and when every
worker has had enough turns all reports are there (`exists_reports_run`).
-/

namespace Lexicon

open Source

/-- How far the check of a file has come. -/
inductive Task where
  | waiting (path : String)
  | reading (map : SourceMap) (tokens : Array SpannedToken) (lx : Lexer)
  | finished (report : FileReport)

namespace Task

/-- One turn of a worker, which finds `symbols` in the shared table; also the table after it. -/
def step (lexing : Lexing) (storage : Storage) (symbols : SymbolTable) : Task → Task × SymbolTable
  | waiting path =>
    match loadSource storage {} path with
    | .error e => (finished (.error e), symbols)
    | .ok (file, map) => (reading map #[] (.ofFile file lexing.options symbols {}), symbols)
  | reading map tokens lx =>
    match ({ lx with symbols } : Lexer).nextSpanned with
    | (.ok t, lx) =>
      if t.token = .eof then
        (finished (.ok (.of map (.ofRun lx.file (.ok (tokens.push t), lx)))), lx.symbols)
      else (reading map (tokens.push t) lx, lx.symbols)
    | (.error e, lx) =>
      match lexing.policy with
      | .abort => (finished (.ok (.of map (.ofRun lx.file (.error e, lx)))), lx.symbols)
      | .skipLine =>
        (reading map tokens { lx with log := lx.log.emit e.toDiagnostic }.skipLine, lx.symbols)
  | finished report => (finished report, symbols)

/-- What a task reports in the end if nobody else has a turn. -/
def report (lexing : Lexing) (storage : Storage) : Task → FileReport
  | waiting path => lexing.report storage path
  | reading map tokens lx => .ok (.of map (.ofRun lx.file (lx.runFrom lexing.policy tokens)))
  | finished report => report

/-- A bound on the turns that a task still needs. -/
def work (storage : Storage) : Task → Nat
  | waiting path =>
    match readSource storage path with
    | .ok text => text.length + 2
    | .error _ => 1
  | reading _ _ lx => lx.remaining + 1
  | finished _ => 0

variable (lexing : Lexing) (storage : Storage) (symbols : SymbolTable)

theorem report_step (task : Task) :
    (task.step lexing storage symbols).1.report lexing storage = task.report lexing storage := by
  cases task with
  | waiting path =>
    rw [report, ← fst_checkFile lexing storage symbols path, step, Lexing.checkFile]
    cases loadSource storage {} path <;> rfl
  | reading map tokens lx =>
    have halike := (alike_runFrom lx.file lexing.policy lx symbols tokens).findings_eq map
    rw [report, halike, step]
    cases hnext : ({ lx with symbols } : Lexer).nextSpanned with
    | mk result lx' =>
      cases result with
      | ok t =>
        by_cases ht : t.token = .eof
        · rw [Lexer.runFrom_of_eof hnext ht]
          simp only [ht, if_true]
          rfl
        · rw [Lexer.runFrom_of_ok hnext ht]
          simp only [ht, if_false]
          rfl
      | error e =>
        obtain ⟨options, policy⟩ := lexing
        cases policy with
        | abort =>
          rw [Lexer.runFrom_abort_of_error hnext]
          rfl
        | skipLine =>
          rw [Lexer.runFrom_skipLine_of_error hnext]
          rfl
  | finished report => rfl

/-- Every turn of a task that is not finished brings it further. -/
theorem work_step_le (task : Task) :
    (task.step lexing storage symbols).1.work storage ≤ task.work storage - 1 := by
  cases task with
  | waiting path =>
    rw [step, work]
    cases hread : readSource storage path with
    | error e =>
      rw [loadSource_eq_error hread]
      exact Nat.zero_le _
    | ok text =>
      rw [loadSource_eq_ok hread]
      exact Nat.succ_le_succ (Lexer.remaining_ofFile_le _ _ _ _)
  | reading map tokens lx =>
    rw [step, work, Nat.add_sub_cancel]
    cases hnext : ({ lx with symbols } : Lexer).nextSpanned with
    | mk result lx' =>
      cases result with
      | ok t =>
        by_cases ht : t.token = .eof
        · simp only [ht, if_true]
          exact Nat.zero_le _
        · simp only [ht, if_false]
          have hlt : lx'.remaining < ({ lx with symbols } : Lexer).remaining :=
            Lexer.remaining_nextSpanned_lt hnext ht
          exact hlt
      | error e =>
        cases lexing.policy with
        | abort => exact Nat.zero_le _
        | skipLine => exact Lexer.remaining_skipLine_lt hnext _
  | finished report => exact Nat.zero_le _

theorem exists_of_work_eq_zero {task : Task} (h : task.work storage = 0) :
    ∃ report, finished report = task := by
  cases task with
  | waiting path =>
    rw [work] at h
    split at h <;> cases h
  | reading map tokens lx => cases h
  | finished report => exact ⟨report, rfl⟩

end Task

/-! ## Pools of workers -/

/-- One task for each file, and the table of symbols that their workers share. -/
structure Pool where
  tasks : List Task
  symbols : SymbolTable

namespace Pool

/-- No file has been loaded yet. -/
def start (symbols : SymbolTable) (paths : List String) : Pool := ⟨paths.map .waiting, symbols⟩

/-- The worker of the task number `i` has a turn. -/
def step (lexing : Lexing) (storage : Storage) (pool : Pool) (i : Nat) : Pool :=
  match pool.tasks[i]? with
  | none => pool
  | some task =>
    let (task, symbols) := task.step lexing storage pool.symbols
    ⟨pool.tasks.set i task, symbols⟩

/-- The workers have turns in the order of `schedule`. -/
def run (lexing : Lexing) (storage : Storage) (pool : Pool) (schedule : List Nat) : Pool :=
  schedule.foldl (step lexing storage) pool

variable (lexing : Lexing) (storage : Storage) (pool : Pool)

theorem map_report_step (i : Nat) :
    (pool.step lexing storage i).tasks.map (Task.report lexing storage) =
      pool.tasks.map (Task.report lexing storage) := by
  unfold step
  cases h : pool.tasks[i]? with
  | none => rfl
  | some task =>
    obtain ⟨hi, rfl⟩ := List.getElem?_eq_some_iff.1 h
    have hi' : i < (pool.tasks.map (Task.report lexing storage)).length := by
      rwa [List.length_map]
    have hreport : pool.tasks[i].report lexing storage =
        (pool.tasks.map (Task.report lexing storage))[i] := (List.getElem_map _).symm
    simp only [List.map_set, Task.report_step]
    rw [hreport, List.set_getElem_self]

/-- Whoever has a turn, what the tasks report in the end stays the same. -/
theorem map_report_run (schedule : List Nat) :
    (pool.run lexing storage schedule).tasks.map (Task.report lexing storage) =
      pool.tasks.map (Task.report lexing storage) := by
  induction schedule generalizing pool with
  | nil => rfl
  | cons i schedule ih => exact (ih _).trans (map_report_step lexing storage pool i)

/-- The turns that the task number `i` still needs. -/
def workOf (i : Nat) : Nat := (pool.tasks[i]?).elim 0 (Task.work storage)

/-- A turn of its worker brings a task further, and no other turn throws it back. -/
theorem workOf_step_le (i j : Nat) :
    (pool.step lexing storage j).workOf storage i ≤ pool.workOf storage i - [j].count i := by
  by_cases hij : i = j
  · subst hij
    rw [List.count_singleton_self, step, workOf, workOf]
    cases h : pool.tasks[i]? with
    | none => simp [h]
    | some task =>
      have hi : i < pool.tasks.length := (List.getElem?_eq_some_iff.1 h).1
      simpa only [List.getElem?_set_self hi, Option.elim_some] using
        task.work_step_le lexing storage pool.symbols
  · have hcount : [j].count i = 0 := List.count_eq_zero.2 (by simp [hij])
    rw [hcount, Nat.sub_zero, step]
    cases h : pool.tasks[j]? with
    | none => exact Nat.le_refl _
    | some task => simp [workOf, List.getElem?_set_ne (Ne.symm hij)]

theorem workOf_run_le (schedule : List Nat) (i : Nat) :
    (pool.run lexing storage schedule).workOf storage i ≤
      pool.workOf storage i - schedule.count i := by
  induction schedule generalizing pool with
  | nil => exact Nat.le_refl _
  | cons j schedule ih =>
    have hcount : ([j] ++ schedule).count i = [j].count i + schedule.count i := List.count_append
    have hstep := workOf_step_le lexing storage pool i j
    calc (pool.run lexing storage (j :: schedule)).workOf storage i
        ≤ (pool.step lexing storage j).workOf storage i - schedule.count i := ih _
      _ ≤ pool.workOf storage i - [j].count i - schedule.count i := Nat.sub_le_sub_right hstep _
      _ = pool.workOf storage i - (j :: schedule).count i := by
        rw [Nat.sub_sub, ← hcount, List.singleton_append]

theorem length_tasks_run (schedule : List Nat) :
    (pool.run lexing storage schedule).tasks.length = pool.tasks.length := by
  have h := congrArg List.length (map_report_run lexing storage pool schedule)
  rwa [List.length_map, List.length_map] at h

/-- A pool whose tasks need no more turns has all reports. -/
theorem exists_reports_of_workOf_eq_zero {pool : Pool}
    (h : ∀ i < pool.tasks.length, pool.workOf storage i = 0) :
    ∃ reports : List FileReport, pool.tasks = reports.map .finished := by
  have hfinished : pool.tasks ∈ Set.range (List.map Task.finished) := by
    rw [Set.range_list_map]
    intro task htask
    obtain ⟨i, hi, rfl⟩ := List.mem_iff_getElem.1 htask
    have hwork := h i hi
    rw [workOf, List.getElem?_eq_getElem hi, Option.elim_some] at hwork
    exact Task.exists_of_work_eq_zero storage hwork
  obtain ⟨reports, hreports⟩ := hfinished
  exact ⟨reports, hreports.symm⟩

section Start

variable (symbols : SymbolTable) (paths : List String)

/-- Reports that workers come to are those of the files alone, in the order of the files. -/
theorem eq_of_run_start {schedule : List Nat} {reports : List FileReport}
    (h : ((start symbols paths).run lexing storage schedule).tasks = reports.map .finished) :
    reports = paths.map (lexing.report storage) := by
  have hrun := map_report_run lexing storage (start symbols paths) schedule
  rw [h, start, List.map_map, List.map_map] at hrun
  have hid : Task.report lexing storage ∘ Task.finished = id := rfl
  rw [hid, List.map_id] at hrun
  exact hrun

/-- When every worker has had enough turns, all reports are there. -/
theorem exists_reports_run :
    ∃ turns, ∀ schedule : List Nat, (∀ i < paths.length, turns ≤ schedule.count i) →
      ∃ reports : List FileReport,
        ((start symbols paths).run lexing storage schedule).tasks = reports.map .finished := by
  refine ⟨((start symbols paths).tasks.map (Task.work storage)).sum, fun schedule hturns => ?_⟩
  apply exists_reports_of_workOf_eq_zero storage
  intro i hi
  rw [length_tasks_run] at hi
  have hrun := workOf_run_le lexing storage (start symbols paths) schedule i
  have hbound : (start symbols paths).workOf storage i ≤
      ((start symbols paths).tasks.map (Task.work storage)).sum := by
    rw [workOf, List.getElem?_eq_getElem hi, Option.elim_some]
    exact List.le_sum_of_mem (List.mem_map_of_mem (List.getElem_mem hi))
  have hlength : (start symbols paths).tasks.length = paths.length := List.length_map _
  have := hturns i (hlength ▸ hi)
  omega

end Start

end Pool

end Lexicon
