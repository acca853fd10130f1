import Lexicon.Proofs.Lexer.Iteration

/-!
# The end of a run

A run goes step by step: each step reads a token, or meets an error and either ends the run or gives
up the rest of the line (`Lexer.step`).  Every step but the last leaves less to read
(`remaining_lt_of_step`), so that every run ends (`exists_endsAfter`), and it has a token or a
rejected character to show for every step (`EndsAfter.size_add_rejections`).  Over whole files this
bounds the tokens and the rejections by the characters of the text (`tokenize_ends`).
-/

namespace Lexicon

open Source Text Unicode Segment

/-! ## Rejections in a log -/

namespace DiagnosticLog

/-- The number of rejected characters reported so far. -/
def rejections (log : DiagnosticLog) : Nat := log.entries.toList.countP Diagnostic.isRejection

theorem rejections_emitAll (log : DiagnosticLog) (ds : List Diagnostic) :
    (log.emitAll ds).rejections = log.rejections + ds.countP Diagnostic.isRejection := by
  rw [rejections, toList_entries_emitAll, List.countP_append, rejections]

theorem rejections_emit (log : DiagnosticLog) (e : LexError) :
    (log.emit e.toDiagnostic).rejections = log.rejections + 1 := by
  rw [← emitAll_singleton, rejections_emitAll]
  rfl

end DiagnosticLog

namespace Lexer

variable {policy : RecoveryPolicy} {tokens tokens' : Array SpannedToken} {lx lx' : Lexer}
  {result : Except LexError (Array SpannedToken)}

/-- Reading a token reports no rejection, whether it succeeds or fails. -/
theorem rejections_of_nextSpanned {read : Except LexError SpannedToken}
    (h : lx.nextSpanned = (read, lx')) : lx'.log.rejections = lx.log.rejections := by
  obtain ⟨gap, rest, hrest, hg, hlexeme⟩ := exists_trivia lx.cursor.rest
  obtain ⟨l, rest, rfl, hl⟩ := Lexeme.exists_followedBy hlexeme
  cases htoken : (Segment.place lx.file.id lx.cursor.pos gap l).token? lx.symbols with
  | some token =>
    have hreject : (Segment.place lx.file.id lx.cursor.pos gap l).rejection? = none := by
      rw [rejection?_eq_none_iff, ← Bool.not_eq_true, ← token?_eq_none_iff lx.symbols, htoken]
      exact Option.some_ne_none token
    have hcount : ((Segment.place lx.file.id lx.cursor.pos gap l).diagnostics lx.options).countP
        Diagnostic.isRejection = 0 := by
      rw [List.countP_eq_length_filter, filter_isRejection_diagnostics, hreject]
      rfl
    rw [nextSpanned_eq_ok hrest hg hl htoken] at h
    cases h
    rw [past, DiagnosticLog.rejections_emitAll, hcount, Nat.add_zero]
  | none =>
    obtain ⟨head, c, tail, hs⟩ := exists_eq_rejected ((token?_eq_none_iff _ _).1 htoken)
    have hs' : l = .rejected head c tail := hs
    rw [nextSpanned_eq_error hrest hg hl hs'] at h
    cases h
    rfl

/-! ## Steps of a run -/

/-- Where a step of a run leads. -/
inductive Step where
  | done (result : Except LexError (Array SpannedToken)) (lx : Lexer)
  | goOn (tokens : Array SpannedToken) (lx : Lexer)

/-- One step of a run that has read `tokens` so far. -/
def step (policy : RecoveryPolicy) (tokens : Array SpannedToken) (lx : Lexer) : Step :=
  match lx.nextSpanned with
  | (.ok t, lx) =>
    if t.token = .eof then .done (.ok (tokens.push t)) lx else .goOn (tokens.push t) lx
  | (.error e, lx) =>
    match policy with
    | .abort => .done (.error e) lx
    | .skipLine => .goOn tokens (lx.recover e)

/-- The run that has read `tokens` so far ends after some steps with an outcome. -/
inductive EndsAfter (policy : RecoveryPolicy) : Nat → Array SpannedToken → Lexer →
    Except LexError (Array SpannedToken) × Lexer → Prop
  | done {tokens : Array SpannedToken} {lx lx' : Lexer}
    {result : Except LexError (Array SpannedToken)}
    (h : lx.step policy tokens = .done result lx') : EndsAfter policy 1 tokens lx (result, lx')
  | goOn {n : Nat} {tokens tokens' : Array SpannedToken} {lx lx' : Lexer}
    {outcome : Except LexError (Array SpannedToken) × Lexer}
    (h : lx.step policy tokens = .goOn tokens' lx')
    (hrest : EndsAfter policy n tokens' lx' outcome) : EndsAfter policy (n + 1) tokens lx outcome

/-- All that a step can do. -/
inductive StepsTo (policy : RecoveryPolicy) (tokens : Array SpannedToken) (lx : Lexer) : Step → Prop
  | eof {t : SpannedToken} {lx' : Lexer} (h : lx.nextSpanned = (.ok t, lx'))
    (ht : t.token = .eof) : StepsTo policy tokens lx (.done (.ok (tokens.push t)) lx')
  | token {t : SpannedToken} {lx' : Lexer} (h : lx.nextSpanned = (.ok t, lx'))
    (ht : t.token ≠ .eof) : StepsTo policy tokens lx (.goOn (tokens.push t) lx')
  | abort {e : LexError} {lx' : Lexer} (h : lx.nextSpanned = (.error e, lx'))
    (hp : policy = .abort) : StepsTo policy tokens lx (.done (.error e) lx')
  | recover {e : LexError} {lx' : Lexer} (h : lx.nextSpanned = (.error e, lx'))
    (hp : policy = .skipLine) : StepsTo policy tokens lx (.goOn tokens (lx'.recover e))

theorem stepsTo_of_step {next : Step} (hstep : lx.step policy tokens = next) :
    lx.StepsTo policy tokens next := by
  subst hstep
  unfold step
  match h : lx.nextSpanned, policy with
  | (.ok t, lx'), policy =>
    by_cases ht : t.token = .eof
    · simp only [ht, if_true]
      exact .eof h ht
    · simp only [ht, if_false]
      exact .token h ht
  | (.error e, lx'), .abort => exact .abort h rfl
  | (.error e, lx'), .skipLine => exact .recover h rfl

theorem remaining_lt_of_step (h : lx.step policy tokens = .goOn tokens' lx') :
    lx'.remaining < lx.remaining := by
  cases stepsTo_of_step h with
  | token hnext ht => exact remaining_nextSpanned_lt hnext ht
  | recover hnext hp => exact remaining_skipLine_lt hnext _

theorem runFrom_of_done (h : lx.step policy tokens = .done result lx') :
    lx.runFrom policy tokens = (result, lx') := by
  cases stepsTo_of_step h with
  | eof hnext ht => exact runFrom_of_eof hnext ht tokens
  | abort hnext hp =>
    subst hp
    exact runFrom_abort_of_error hnext tokens

theorem runFrom_of_goOn (h : lx.step policy tokens = .goOn tokens' lx') :
    lx.runFrom policy tokens = lx'.runFrom policy tokens' := by
  cases stepsTo_of_step h with
  | token hnext ht => exact runFrom_of_ok hnext ht tokens
  | recover hnext hp =>
    subst hp
    exact runFrom_skipLine_of_error hnext tokens

/-- A run ends after as many steps as characters are left, and one more at most. -/
theorem exists_endsAfter (policy : RecoveryPolicy) (tokens : Array SpannedToken) (lx : Lexer) :
    ∃ n ≤ lx.remaining + 1, lx.EndsAfter policy n tokens (lx.runFrom policy tokens) := by
  induction hn : lx.remaining using Nat.strongRecOn generalizing tokens lx with
  | _ n ih =>
    cases h : lx.step policy tokens with
    | done result lx' =>
      rw [runFrom_of_done h]
      exact ⟨1, Nat.le_add_left 1 n, .done h⟩
    | goOn tokens' lx' =>
      have hlt := hn ▸ remaining_lt_of_step h
      obtain ⟨k, hk, hends⟩ := ih lx'.remaining hlt tokens' lx' rfl
      rw [runFrom_of_goOn h]
      exact ⟨k + 1, Nat.succ_le_succ (Nat.le_trans hk hlt), .goOn h hends⟩

/-! ## What steps add -/

/-- A step that is not the last adds a token, or else it reports a rejection. -/
theorem size_add_rejections_of_goOn (h : lx.step policy tokens = .goOn tokens' lx') :
    tokens'.size + lx'.log.rejections = tokens.size + lx.log.rejections + 1 := by
  cases stepsTo_of_step h with
  | token hnext ht =>
    rw [Array.size_push, rejections_of_nextSpanned hnext]
    exact Nat.add_right_comm _ _ _
  | @recover e behind hnext hp =>
    have hlog : (behind.recover e).log = behind.log.emit e.toDiagnostic := rfl
    rw [hlog, DiagnosticLog.rejections_emit, rejections_of_nextSpanned hnext]
    rfl

/-- An aborting run reports no rejection on the way. -/
theorem rejections_of_goOn (h : lx.step .abort tokens = .goOn tokens' lx') :
    lx'.log.rejections = lx.log.rejections := by
  cases stepsTo_of_step h with
  | token hnext ht => exact rejections_of_nextSpanned hnext
  | recover hnext hp => cases hp

/-- A run that succeeds has a token or a rejection to show for every step. -/
theorem EndsAfter.size_add_rejections {n : Nat} {all : Array SpannedToken} {last : Lexer}
    (h : lx.EndsAfter policy n tokens (.ok all, last)) :
    all.size + last.log.rejections = tokens.size + lx.log.rejections + n := by
  generalize houtcome : ((.ok all, last) : Except LexError (Array SpannedToken) × Lexer) = outcome
    at h
  induction h with
  | done h =>
    cases houtcome
    cases stepsTo_of_step h with
    | eof hnext ht =>
      rw [Array.size_push, rejections_of_nextSpanned hnext]
      exact Nat.add_right_comm _ _ _
  | goOn h hrest ih =>
    rw [ih houtcome, size_add_rejections_of_goOn h]
    exact Nat.add_right_comm _ 1 _

/-- Only an aborting run fails, and it reports no rejection. -/
theorem EndsAfter.rejections_eq_of_error {n : Nat} {e : LexError} {last : Lexer}
    (h : lx.EndsAfter policy n tokens (.error e, last)) :
    policy = .abort ∧ last.log.rejections = lx.log.rejections := by
  generalize houtcome : ((.error e, last) : Except LexError (Array SpannedToken) × Lexer) = outcome
    at h
  induction h with
  | done h =>
    cases houtcome
    cases stepsTo_of_step h with
    | abort hnext hp => exact ⟨hp, rejections_of_nextSpanned hnext⟩
  | goOn h hrest ih =>
    obtain ⟨rfl, hlast⟩ := ih houtcome
    exact ⟨rfl, hlast.trans (rejections_of_goOn h)⟩

end Lexer

/-! ## Comments -/

/-- Behind `before` no comment is open: on the line there stands no `#`. -/
def OutsideComment (before : List Char) : Prop :=
  ∃ lines line, before = lines ++ line ∧ EndsLine lines ∧ '#' ∉ line

theorem OutsideComment.append {before text : List Char} (h : OutsideComment before)
    (ht : '#' ∉ text) : OutsideComment (before ++ text) := by
  obtain ⟨lines, line, rfl, hlines, hline⟩ := h
  refine ⟨lines, line ++ text, List.append_assoc _ _ _, hlines, ?_⟩
  rw [List.mem_append, not_or]
  exact ⟨hline, ht⟩

theorem outsideComment_of_endsLine {before : List Char} (h : EndsLine before) :
    OutsideComment before :=
  ⟨before, [], (List.append_nil _).symm, h, List.not_mem_nil⟩

theorem hash_notMem_of_forall_isIdentContinue {text : List Char}
    (h : ∀ c ∈ text, isIdentContinue c) : '#' ∉ text :=
  fun hmem => absurd (h _ hmem) (by decide)

/-- Within a line nothing but a comment holds a `#`. -/
theorem Lexeme.FollowedBy.hash_notMem {l : Lexeme} {rest : List Char} (h : l.FollowedBy rest)
    (hl : l.isRejected = false) : '#' ∉ l.spelling := by
  cases h with
  | ident h hr => exact hash_notMem_of_forall_isIdentContinue h.forall_isIdentContinue
  | number h hr =>
    intro hmem
    rcases h.isDigit_or_eq _ hmem with hc | hc
    · exact absurd hc (by decide)
    · exact absurd hc (by decide)
  | newline => decide
  | punct mark => cases mark <;> decide
  | invalid h => simpa [spelling] using Ne.symm h.ne_hash
  | eof => exact List.not_mem_nil
  | rejected => cases hl

/-- A comment stands in front of the end of a line only. -/
theorem IsTrivia.hash_notMem {gap rest : List Char} {l : Lexeme}
    (hg : IsTrivia gap (l.spelling ++ rest)) (hl : l.FollowedBy rest) (hne : l ≠ .eof)
    (hn : l ≠ .newline) : '#' ∉ gap := by
  have hblank : ∀ c ∈ gap, isBlank c := by
    refine hg.forall_isBlank fun hend => ?_
    exact hl.spelling_ne_nil hne (hend.eq_nil (hl.newline_notMem hn))
  exact fun hmem => absurd (hblank _ hmem) (by decide)

/-- In front of a character that the first rejected lexeme rejects, no comment is open. -/
theorem Segmented.outsideComment {file : FileId} {p : Position} {text front : List Char}
    {before after : List Segment} {s : Segment} {head tail : List Char} {c : Char}
    (h : Segmented file p text (before ++ s :: after))
    (hbefore : ∀ s ∈ before, s.lexeme.isRejected = false)
    (hs : s.lexeme = .rejected head c tail) (hfront : OutsideComment front) :
    OutsideComment (front ++ (before.flatMap Segment.text ++ (s.gap ++ head))) := by
  induction before generalizing p text front with
  | nil =>
    rw [List.nil_append] at h
    cases h with
    | eof hg => cases hs
    | @cons _ _ gap rest l _ ht hg hl hne h =>
      have hs' : l = .rejected head c tail := hs
      subst hs'
      have hgap := hg.hash_notMem hl hne Lexeme.noConfusion
      refine hfront.append ?_
      cases hl with
      | rejected hhead hc htail hr =>
        have hident : '#' ∉ head := by
          rcases hhead with ⟨rfl, -⟩ | ⟨hident, -⟩
          · exact List.not_mem_nil
          · exact hash_notMem_of_forall_isIdentContinue hident.forall_isIdentContinue
        rw [List.flatMap_nil, List.nil_append, List.mem_append, not_or]
        exact ⟨hgap, hident⟩
  | cons s' before ih =>
    rw [List.cons_append] at h
    generalize hmore : before ++ s :: after = more at h
    rw [List.forall_mem_cons] at hbefore
    cases h with
    | eof hg => exact absurd hmore (by simp)
    | @cons _ _ gap rest l _ ht hg hl hne h =>
      subst hmore
      rw [List.flatMap_cons, List.append_assoc, ← List.append_assoc front]
      refine ih h hbefore.2 ?_
      by_cases hn : l = .newline
      · subst hn
        refine outsideComment_of_endsLine (.inr ⟨front ++ gap, ?_⟩)
        exact (List.append_assoc _ _ _).symm
      · refine hfront.append ?_
        rw [Segment.text, List.mem_append, not_or]
        exact ⟨hg.hash_notMem hl hne hn, hl.hash_notMem hbefore.1⟩

/-! ## Whole files -/

/-- The error is about the character behind `before`, which is beyond ASCII, outside comments and
not the byte order mark of the file. -/
structure LexError.StandsBehind (e : LexError) (file : SourceFile) (before : List Char) : Prop where
  text_eq : ∃ after, file.text = before ++ e.offending :: after
  span_eq : e.span = ⟨Position.start.advanceOver before,
    Position.start.advanceOver (before ++ [e.offending]), file.id⟩
  not_isAscii : isAscii e.offending = false
  outside : OutsideComment before
  not_mark : before = [] → e.offending ≠ '\uFEFF'

theorem hash_notMem_byteOrderMark (text : List Char) : '#' ∉ byteOrderMark text := by
  unfold byteOrderMark
  split_ifs
  · decide
  · exact List.not_mem_nil

/-- The error of the first rejected segment is about a character outside comments. -/
theorem SegmentsOf.exists_standsBehind {file : SourceFile} {before after : List Segment}
    {s : Segment} {head tail : List Char} {c : Char}
    (h : SegmentsOf file (before ++ s :: after))
    (hbefore : ∀ s ∈ before, s.lexeme.isRejected = false)
    (hs : s.lexeme = .rejected head c tail) (name : String) :
    ∃ front, LexError.StandsBehind ⟨name, c, s.charSpan head c⟩ file front := by
  have hmark : OutsideComment (byteOrderMark file.text) :=
    ⟨[], byteOrderMark file.text, rfl, endsLine_nil, hash_notMem_byteOrderMark _⟩
  have hout := Segmented.outsideComment h hbefore hs hmark
  have htext := byteOrderMark_append file.text
  obtain ⟨rest, hrest, hsegments⟩ := Segmented.exists_of_append h (List.cons_ne_nil _ _)
  rw [← Position.advanceOver_append] at hsegments
  cases hsegments with
  | eof hg => cases hs
  | @cons _ _ gap rest l _ hcut hg hl hne hback =>
    have hs' : l = .rejected head c tail := hs
    subst hs'
    have hfile : file.text = (byteOrderMark file.text ++
        (before.flatMap Segment.text ++ (gap ++ head))) ++ c :: (tail ++ rest) := by
      conv_lhs => rw [← htext, hrest, hcut]
      simp [Lexeme.spelling]
    refine ⟨_, ⟨_, hfile⟩, ?_, ?_, hout, fun hnil hc => ?_⟩
    · simp [Segment.charSpan, Segment.place, Position.advanceOver_append]
    · cases hl with
      | rejected hhead hc htail hr => exact hc
    · -- At the start of the file the character would be its byte order mark.
      have hhead : file.text.head? = some '\uFEFF' := by
        rw [hfile, hnil]
        exact congrArg some hc
      rw [byteOrderMark, if_pos hhead] at hnil
      cases hnil

/-- Where a run fails, it is about a character outside comments. -/
theorem exists_reports_standsBehind (file : SourceFile) (options : LexOptions)
    (policy : RecoveryPolicy) (symbols : SymbolTable) (log : DiagnosticLog) :
    ∃ reports, (tokenize file options policy symbols log).2.log = log.emitAll reports ∧
      ∀ e, (tokenize file options policy symbols log).1 = .error e →
        ∃ before, e.StandsBehind file before := by
  obtain ⟨segments, h⟩ := exists_segmentsOf file
  obtain ⟨lx, hskip, -, hlog⟩ := tokenize_skipLine options symbols log h
  have hwhole : ∃ reports,
      (tokenize file options .skipLine symbols log).2.log = log.emitAll reports ∧
      ∀ e, (tokenize file options .skipLine symbols log).1 = .error e →
        ∃ before, e.StandsBehind file before := by
    rw [hskip]
    exact ⟨_, hlog, nofun⟩
  cases policy with
  | skipLine => exact hwhole
  | abort =>
    rcases forall_or_exists_rejected segments with
      hs | ⟨before, s, after, head, c, tail, rfl, hbefore, hs⟩
    · rw [tokenize_abort_eq options symbols log h hs]
      exact hwhole
    · obtain ⟨lx, habort, hlog⟩ := tokenize_abort_eq_error options symbols log h hbefore hs
      rw [habort]
      refine ⟨_, hlog, fun e he => ?_⟩
      cases he
      exact h.exists_standsBehind hbefore hs file.name

/-- Tokenizing a file ends.  It takes one step more than there are characters at most, and where it
succeeds it has a token or a rejected character to show for each of them.  Only with the policy that
aborts it fails, at a character beyond ASCII that is outside comments and not the byte order
mark. -/
theorem tokenize_ends (file : SourceFile) (options : LexOptions) (policy : RecoveryPolicy)
    (symbols : SymbolTable) (log : DiagnosticLog) :
    ∃ (steps : Nat) (reports : List Diagnostic),
      (Lexer.ofFile file options symbols log).EndsAfter policy steps #[]
        (tokenize file options policy symbols log) ∧
      steps ≤ file.text.length + 1 ∧
      (tokenize file options policy symbols log).2.log = log.emitAll reports ∧
      match (tokenize file options policy symbols log).1 with
      | .ok tokens => tokens.size + reports.countP Diagnostic.isRejection = steps
      | .error e => policy = .abort ∧ reports.countP Diagnostic.isRejection = 0 ∧
          ∃ before, e.StandsBehind file before := by
  obtain ⟨steps, hsteps, hends⟩ :=
    Lexer.exists_endsAfter policy #[] (.ofFile file options symbols log)
  have hle := Lexer.remaining_ofFile_le file options symbols log
  obtain ⟨reports, hlog, herror⟩ := exists_reports_standsBehind file options policy symbols log
  have hends' : (Lexer.ofFile file options symbols log).EndsAfter policy steps #[]
      (tokenize file options policy symbols log) := hends
  refine ⟨steps, reports, hends', by omega, hlog, ?_⟩
  generalize tokenize file options policy symbols log = outcome at hends' hlog herror
  match outcome with
  | (.ok tokens, last) =>
    have hcount := hends'.size_add_rejections
    rw [show last.log = log.emitAll reports from hlog, DiagnosticLog.rejections_emitAll] at hcount
    have hempty : (#[] : Array SpannedToken).size = 0 := rfl
    have hstart : (Lexer.ofFile file options symbols log).log = log := rfl
    simp only [hempty, hstart] at hcount
    omega
  | (.error e, last) =>
    obtain ⟨hpolicy, hcount⟩ := hends'.rejections_eq_of_error
    rw [show last.log = log.emitAll reports from hlog, DiagnosticLog.rejections_emitAll] at hcount
    have hstart : (Lexer.ofFile file options symbols log).log = log := rfl
    rw [hstart] at hcount
    exact ⟨hpolicy, by omega, herror e rfl⟩

end Lexicon
