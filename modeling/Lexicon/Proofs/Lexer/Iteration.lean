import Lexicon.Proofs.Lexer.Calls

/-!
# Iterating

Every lexer reads some tokens up to the last one or to an error (`exists_readsTo`).  From this both
runs and the iteration are read off: collected once, the iteration yields what a run that aborts
reads, and driven on behind every error it yields what a run that skips lines reads
(`iteration_agrees_with_tokenize`).
-/

namespace Lexicon

open Source

namespace Lexer

variable {lx lx' behind : Lexer}

/-! ## The end of the iteration -/

/-- The iteration is over: there is no next token, whatever is called before but `skipLine`. -/
def IsOver (lx : Lexer) : Prop :=
  ∀ calls, Call.skipLine ∉ calls →
    (lx.performAll calls).next? = (none, lx.performAll calls)

theorem finished_nextToken (lx : Lexer) : lx.nextToken.2.finished = lx.finished :=
  lx.beginToken.keeps_readToken.finished_eq.trans lx.keeps_skipTrivia.finished_eq

theorem finished_nextSpanned (lx : Lexer) : lx.nextSpanned.2.finished = lx.finished := by
  have hnext := lx.finished_nextToken
  unfold nextSpanned
  generalize lx.nextToken = result at hnext
  match result with
  | (.ok token, lx') => exact hnext
  | (.error e, lx') => exact hnext

/-- Only `skipLine` lets the iteration go on. -/
theorem finished_perform (hf : lx.finished) {call : Call} (hc : call ≠ .skipLine) :
    (lx.perform call).2.finished := by
  cases call with
  | nextToken => exact lx.finished_nextToken.trans hf
  | nextSpanned => exact lx.finished_nextSpanned.trans hf
  | next =>
    rw [perform, next?_of_finished hf]
    exact hf
  | skipLine => exact absurd rfl hc
  | skipTrivia => exact lx.keeps_skipTrivia.finished_eq.trans hf
  | skipComment => exact hf
  | lexNumber => exact lx.keeps_lexNumber.finished_eq.trans hf
  | lexIdent first => exact (lx.keeps_lexIdent first).finished_eq.trans hf

theorem isOver_of_finished (hf : lx.finished) : lx.IsOver := by
  intro calls hcalls
  refine next?_of_finished ?_
  induction calls generalizing lx with
  | nil => exact hf
  | cons call calls ih =>
    rw [List.mem_cons, not_or] at hcalls
    exact ih (finished_perform hf (Ne.symm hcalls.1)) hcalls.2

/-! ## Collecting -/

theorem go_of_finished (hf : lx.finished) (results : List (Except LexError Token)) :
    collect.go results lx = (results.reverse, lx) := by
  rw [collect.go, if_pos hf]

theorem go_of_eof (hf : lx.finished = false) (h : lx.nextToken = (.ok .eof, lx'))
    (results : List (Except LexError Token)) :
    collect.go results lx = (results.reverse, lx'.finish) := by
  rw [collect.go, hf, if_neg Bool.false_ne_true]
  split
  · next h' =>
    rw [h] at h'
    cases h'
  · next h' =>
    rw [h] at h'
    cases h'
    rfl

theorem go_of_ok {token : Token} (hf : lx.finished = false) (h : lx.nextToken = (.ok token, lx'))
    (hne : token ≠ .eof) (results : List (Except LexError Token)) :
    collect.go results lx = collect.go (.ok token :: results) lx' := by
  rw [collect.go, hf, if_neg Bool.false_ne_true]
  split
  · next h' =>
    rw [h] at h'
    cases h'
  · next h' =>
    rw [h] at h'
    cases h'
    rw [dif_neg hne]

theorem go_of_error {e : LexError} (hf : lx.finished = false)
    (h : lx.nextToken = (.error e, lx')) (results : List (Except LexError Token)) :
    collect.go results lx = ((.error e :: results).reverse, lx'.finish) := by
  rw [collect.go, hf, if_neg Bool.false_ne_true]
  split
  · next h' =>
    rw [h] at h'
    cases h'
    rfl
  · next h' =>
    rw [h] at h'
    cases h'

theorem go_eq (results : List (Except LexError Token)) (lx : Lexer) :
    collect.go results lx = (results.reverse ++ lx.collect.1, lx.collect.2) := by
  unfold collect
  induction hn : lx.remaining using Nat.strongRecOn generalizing results lx with
  | _ n ih =>
    cases lx.nextStep with
    | finished hf => simp [go_of_finished hf]
    | eof hf h => simp [go_of_eof hf h]
    | @token token lx' hf h hne =>
      have hlt := hn ▸ remaining_nextToken_lt h hne
      rw [go_of_ok hf h hne, go_of_ok hf h hne, ih _ hlt _ lx' rfl, ih _ hlt [.ok token] lx' rfl]
      simp
    | error hf h => simp [go_of_error hf h]

/-- The items of the iteration come one by one from `next?`. -/
theorem collect_eq (lx : Lexer) :
    lx.collect =
      match lx.next? with
      | (none, lx') => ([], lx')
      | (some item, lx') => (item :: lx'.collect.1, lx'.collect.2) := by
  cases lx.nextStep with
  | finished hf =>
    rw [next?_of_finished hf]
    exact go_of_finished hf []
  | eof hf h =>
    rw [next?_of_eof hf h]
    exact go_of_eof hf h []
  | token hf h hne =>
    rw [next?_of_ok hf h hne, collect, go_of_ok hf h hne, go_eq]
    rfl
  | @error e lx' hf h =>
    have hover : lx'.finish.collect = ([], lx'.finish) := go_of_finished rfl []
    rw [next?_of_error hf h, collect, go_of_error hf h]
    simp only [hover, List.reverse_singleton]

/-! ## Reading tokens -/

/-- The lexer reads `tokens` one by one, none of them the last of the file, and then stands as
`behind`. -/
inductive ReadsTo : Lexer → List SpannedToken → Lexer → Prop
  | nil {lx : Lexer} : ReadsTo lx [] lx
  | cons {lx lx' behind : Lexer} {t : SpannedToken} {tokens : List SpannedToken}
    (h : lx.nextSpanned = (.ok t, lx')) (ht : t.token ≠ .eof) (hrest : ReadsTo lx' tokens behind) :
    ReadsTo lx (t :: tokens) behind

/-- What a lexer meets that reads no further token. -/
inductive Meets (lx : Lexer) : Prop
  | eof {span : Span} {lx' : Lexer} (h : lx.nextSpanned = (.ok ⟨.eof, span⟩, lx'))
  | error {e : LexError} {lx' : Lexer} (h : lx.nextSpanned = (.error e, lx'))

/-- Every lexer reads as far as the end or an error. -/
theorem exists_readsTo (lx : Lexer) : ∃ tokens behind, lx.ReadsTo tokens behind ∧ behind.Meets := by
  induction hn : lx.remaining using Nat.strongRecOn generalizing lx with
  | _ n ih =>
    match h : lx.nextSpanned with
    | (.error e, lx') => exact ⟨[], lx, .nil, .error h⟩
    | (.ok ⟨token, span⟩, lx') =>
      by_cases ht : token = .eof
      · exact ⟨[], lx, .nil, .eof (ht ▸ h)⟩
      · obtain ⟨tokens, behind, hreads, hmeets⟩ :=
          ih _ (hn ▸ remaining_nextSpanned_lt h ht) lx' rfl
        exact ⟨_, behind, .cons h ht hreads, hmeets⟩

theorem nextToken_of_nextSpanned_eq_ok {t : SpannedToken} (h : lx.nextSpanned = (.ok t, lx')) :
    lx.nextToken = (.ok t.token, lx') := by
  unfold nextSpanned at h
  split at h
  next h' =>
    cases h
    exact h'
  next => cases h

theorem nextToken_of_nextSpanned_eq_error {e : LexError}
    (h : lx.nextSpanned = (.error e, lx')) : lx.nextToken = (.error e, lx') := by
  unfold nextSpanned at h
  split at h
  next => cases h
  next h' =>
    cases h
    exact h'

namespace ReadsTo

variable {tokens : List SpannedToken}

theorem finished_eq (h : lx.ReadsTo tokens behind) : behind.finished = lx.finished := by
  induction h with
  | nil => rfl
  | @cons lx lx' _ t _ h ht hrest ih =>
    have hstep := lx.finished_nextSpanned
    rw [h] at hstep
    exact ih.trans hstep

theorem remaining_le (h : lx.ReadsTo tokens behind) : behind.remaining ≤ lx.remaining := by
  induction h with
  | nil => exact Nat.le_refl _
  | cons h ht hrest ih => exact Nat.le_trans ih (Nat.le_of_lt (remaining_nextSpanned_lt h ht))

theorem runFrom_eq (h : lx.ReadsTo tokens behind) (policy : RecoveryPolicy)
    (front : Array SpannedToken) :
    lx.runFrom policy front = behind.runFrom policy (front ++ tokens.toArray) := by
  induction h generalizing front with
  | nil => rw [Array.append_empty]
  | cons h ht hrest ih =>
    rw [runFrom_of_ok h ht, ih]
    simp

theorem collect_eq (h : lx.ReadsTo tokens behind) (hf : lx.finished = false) :
    lx.collect = (tokens.map (.ok ·.token) ++ behind.collect.1, behind.collect.2) := by
  induction h with
  | nil => rfl
  | @cons lx lx' _ t _ h ht hrest ih =>
    have hstep := lx.finished_nextSpanned
    rw [h] at hstep
    have hnext := next?_of_ok hf (nextToken_of_nextSpanned_eq_ok h) ht
    rw [Lexer.collect_eq, hnext]
    simp only [ih (hstep.trans hf), List.map_cons, List.cons_append]

end ReadsTo

/-- At the end the iteration yields nothing more. -/
theorem collect_of_eof {span : Span} (hf : lx.finished = false)
    (h : lx.nextSpanned = (.ok ⟨.eof, span⟩, lx')) : lx.collect = ([], lx'.finish) :=
  go_of_eof hf (nextToken_of_nextSpanned_eq_ok h) []

theorem collect_of_error {e : LexError} (hf : lx.finished = false)
    (h : lx.nextSpanned = (.error e, lx')) : lx.collect = ([.error e], lx'.finish) :=
  go_of_error hf (nextToken_of_nextSpanned_eq_error h) []

/-- A round of the iteration, as far as the end of the text or an error. -/
inductive Round (lx : Lexer) : Prop
  | eof {tokens : List SpannedToken} {behind lx' : Lexer} {span : Span}
    (hreads : lx.ReadsTo tokens behind) (h : behind.nextSpanned = (.ok ⟨.eof, span⟩, lx'))
    (hcollect : lx.collect = (tokens.map (.ok ·.token), lx'.finish))
  | error {tokens : List SpannedToken} {behind lx' : Lexer} {e : LexError}
    (hreads : lx.ReadsTo tokens behind) (h : behind.nextSpanned = (.error e, lx'))
    (hcollect : lx.collect = (tokens.map (.ok ·.token) ++ [.error e], lx'.finish))

theorem round (hf : lx.finished = false) : lx.Round := by
  obtain ⟨tokens, behind, hreads, hmeets⟩ := lx.exists_readsTo
  have hcollect := hreads.collect_eq hf
  have hbehind := hreads.finished_eq.trans hf
  cases hmeets with
  | eof h =>
    rw [collect_of_eof hbehind h, List.append_nil] at hcollect
    exact .eof hreads h hcollect
  | error h =>
    rw [collect_of_error hbehind h] at hcollect
    exact .error hreads h hcollect

theorem finished_collect (lx : Lexer) : lx.collect.2.finished := by
  cases hf : lx.finished with
  | true =>
    rw [collect, go_of_finished hf]
    exact hf
  | false =>
    cases round hf with
    | eof hreads h hcollect =>
      rw [hcollect]
      rfl
    | error hreads h hcollect =>
      rw [hcollect]
      rfl

/-! ## Going on behind errors -/

/-- The error with which the iteration ended. -/
def lastError? (results : List (Except LexError Token)) : Option LexError :=
  match results.getLast? with
  | some (.error e) => some e
  | _ => none

/-- The lexer that reports the error and gives up the rest of its line. -/
def recover (lx : Lexer) (e : LexError) : Lexer :=
  ({ lx with log := lx.log.emit e.toDiagnostic } : Lexer).skipLine

theorem lastError?_map_ok (tokens : List SpannedToken) :
    lastError? (tokens.map (.ok ·.token)) = none := by
  rw [lastError?, List.getLast?_map]
  cases tokens.getLast? <;> rfl

theorem lastError?_concat (results : List (Except LexError Token)) (e : LexError) :
    lastError? (results ++ [.error e]) = some e := by
  rw [lastError?, List.getLast?_concat]

/-- A round that ended with an error leaves less to read. -/
theorem remaining_recover_lt {results : List (Except LexError Token)} {e : LexError}
    (h : lx.collect = (results, lx')) (he : lastError? results = some e) :
    (lx'.recover e).remaining < lx.remaining := by
  cases hf : lx.finished with
  | true =>
    rw [collect, go_of_finished hf] at h
    cases h
    cases he
  | false =>
    cases round hf with
    | eof hreads hend hcollect =>
      rw [hcollect] at h
      cases h
      rw [lastError?_map_ok] at he
      cases he
    | error hreads herror hcollect =>
      rw [hcollect] at h
      cases h
      exact Nat.lt_of_lt_of_le (remaining_skipLine_lt herror _) hreads.remaining_le

/-- Iterates again and again until a round ends without an error, and gives the tokens of all
rounds.  Behind every other round its error is reported and the rest of its line given up. -/
def drive (lx : Lexer) : List Token × Lexer :=
  match h : lx.collect with
  | (results, lx') =>
    match he : lastError? results with
    | some e =>
      have := remaining_recover_lt h he
      let (tokens, behind) := (lx'.recover e).drive
      (results.filterMap Except.toOption ++ tokens, behind)
    | none => (results.filterMap Except.toOption, lx')
termination_by lx.remaining

theorem filterMap_toOption_map_ok (tokens : List SpannedToken) :
    (tokens.map fun t => (.ok t.token : Except LexError Token)).filterMap Except.toOption =
      tokens.map (·.token) := by
  rw [List.filterMap_map, ← List.filterMap_eq_map]
  rfl

theorem drive_of_eof {tokens : List SpannedToken}
    (h : lx.collect = (tokens.map (.ok ·.token), lx')) :
    lx.drive = (tokens.map (·.token), lx') := by
  rw [drive]
  split
  next h' =>
    rw [h] at h'
    cases h'
    split
    · next he =>
      rw [lastError?_map_ok] at he
      cases he
    · rw [filterMap_toOption_map_ok]

theorem drive_of_error {tokens : List SpannedToken} {e : LexError}
    (h : lx.collect = (tokens.map (.ok ·.token) ++ [.error e], lx')) :
    lx.drive = (tokens.map (·.token) ++ (lx'.recover e).drive.1, (lx'.recover e).drive.2) := by
  rw [drive]
  split
  next h' =>
    rw [h] at h'
    cases h'
    split
    · next he =>
      rw [lastError?_concat] at he
      cases he
      rw [List.filterMap_append, filterMap_toOption_map_ok]
      simp [Except.toOption]
    · next he =>
      rw [lastError?_concat] at he
      cases he

/-- All rounds together read what a run that skips lines reads. -/
theorem drive_eq_runFrom (hf : lx.finished = false) :
    ∃ (tokens : List SpannedToken) (span : Span) (lx' : Lexer),
      lx.drive = (tokens.map (·.token), lx'.finish) ∧
      ∀ front, lx.runFrom .skipLine front =
        (.ok (front ++ tokens.toArray |>.push ⟨.eof, span⟩), lx') := by
  -- Every round but the last leaves less to read.
  induction hn : lx.remaining using Nat.strongRecOn generalizing lx with
  | _ n ih =>
    cases round hf with
    | @eof tokens _ lx' span hreads hend hcollect =>
      refine ⟨tokens, span, lx', drive_of_eof hcollect, fun front => ?_⟩
      rw [hreads.runFrom_eq, runFrom_of_eof hend rfl]
    | @error tokens _ lx' e hreads herror hcollect =>
      have hlt := remaining_recover_lt hcollect (lastError?_concat _ e)
      obtain ⟨more, span, last, hdrive, hrun⟩ :=
        @ih _ (hn ▸ hlt) (lx'.finish.recover e) rfl rfl
      refine ⟨tokens ++ more, span, last, ?_, fun front => ?_⟩
      · rw [drive_of_error hcollect, hdrive, List.map_append]
      · rw [hreads.runFrom_eq, runFrom_skipLine_of_error herror]
        refine (hrun _).trans ?_
        simp

/-! ## Whole files -/

/-- The iteration yields what a run that aborts reads: all tokens but the last, or those in front of
the error and then the error.  It leaves the lexer where the run does, but with the iteration
over. -/
def CollectsAs (lx : Lexer) (outcome : Except LexError (Array SpannedToken) × Lexer) : Prop :=
  match outcome with
  | (.ok tokens, lx') => ∃ front span, tokens.toList = front ++ [⟨.eof, span⟩] ∧
      lx.collect = (front.map (.ok ·.token), lx'.finish)
  | (.error e, lx') => ∃ front behind, lx.ReadsTo front behind ∧
      behind.nextSpanned = (.error e, lx') ∧
      lx.collect = (front.map (.ok ·.token) ++ [.error e], lx'.finish)

theorem collectsAs_run (hf : lx.finished = false) : lx.CollectsAs (lx.run .abort) := by
  unfold CollectsAs run
  cases round hf with
  | @eof tokens _ _ span hreads hend hcollect =>
    rw [hreads.runFrom_eq, runFrom_of_eof hend rfl]
    exact ⟨tokens, span, by simp, hcollect⟩
  | @error tokens behind _ _ hreads herror hcollect =>
    rw [hreads.runFrom_eq, runFrom_abort_of_error herror]
    exact ⟨tokens, behind, hreads, herror, hcollect⟩

/-- How a lexer is iterated: its items come one by one from `next?`, there are no more of them where
`next?` yields none or an error, and giving up the line lets them go on. -/
structure Iterates (lx : Lexer) : Prop where
  collect_eq : lx.collect =
    match lx.next? with
    | (none, lx') => ([], lx')
    | (some item, lx') => (item :: lx'.collect.1, lx'.collect.2)
  isOver :
    match lx.next? with
    | (some (.ok _), _) => True
    | (_, lx') => lx'.IsOver
  resumes : lx.skipLine.next?.1 =
    match lx.skipLine.nextToken.1 with
    | .ok .eof => none
    | result => some result

theorem iterates (lx : Lexer) : lx.Iterates where
  collect_eq := lx.collect_eq
  isOver := by
    cases lx.nextStep with
    | finished hf =>
      rw [next?_of_finished hf]
      exact isOver_of_finished hf
    | eof hf h =>
      rw [next?_of_eof hf h]
      exact isOver_of_finished rfl
    | token hf h hne =>
      rw [next?_of_ok hf h hne]
      trivial
    | error hf h =>
      rw [next?_of_error hf h]
      exact isOver_of_finished rfl
  resumes := by
    cases lx.skipLine.nextStep with
    | finished hf => cases hf
    | eof hf h => rw [next?_of_eof hf h, h]
    | @token token lx' hf h hne =>
      rw [next?_of_ok hf h hne, h]
      cases token with
      | eof => exact absurd rfl hne
      | ident | number | newline | punct | invalid => rfl
    | error hf h => rw [next?_of_error hf h, h]

end Lexer

/-- Iterated once, the lexer of a file yields what tokenizing with the policy that aborts does; then
the iteration is over.  Iterated on behind the line of every error, which is reported, it yields
what tokenizing with the policy that skips lines does, with the same symbols and reports. -/
theorem iteration_agrees_with_tokenize (file : SourceFile) (options : LexOptions)
    (symbols : SymbolTable) (log : DiagnosticLog) :
    let fresh := Lexer.ofFile file options symbols log
    (∀ lx : Lexer, lx.Iterates) ∧
    fresh.CollectsAs (tokenize file options .abort symbols log) ∧
    fresh.collect.2.IsOver ∧
    ∃ (front : List SpannedToken) (span : Span) (last : Lexer),
      tokenize file options .skipLine symbols log =
        (.ok (front.toArray.push ⟨.eof, span⟩), last) ∧
      fresh.drive = (front.map (·.token), last.finish) := by
  intro fresh
  obtain ⟨front, span, last, hdrive, hrun⟩ := @Lexer.drive_eq_runFrom fresh rfl
  refine ⟨Lexer.iterates, Lexer.collectsAs_run rfl,
    Lexer.isOver_of_finished fresh.finished_collect, front, span, last, ?_, hdrive⟩
  rw [tokenize, Lexer.run, hrun, Array.empty_append]

/-- Rejected characters in the first and in the last line, and what the iteration makes of them. -/
example :
    let fresh := Lexer.ofFile { id := 0, name := "a", text := "€ a\n1 ½".toList } {} {} {}
    fresh.drive.1 = [.newline, .number 1] ∧
      fresh.drive.2.log.entries.toList.map (·.span.lo) = [⟨0, 1, 1⟩, ⟨8, 2, 3⟩] := by
  decide +kernel

end Lexicon
