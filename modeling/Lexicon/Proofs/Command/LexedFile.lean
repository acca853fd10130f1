import Lexicon.Command.CheckFiles
import Lexicon.Proofs.Lexer.Independence

/-!
# What the lexing of a file shows

What is counted and printed of a file does not depend on the symbols that were interned before
(`alike_lex`), nor on those that others intern while it is lexed (`alike_runFrom`).  Whether a file
passes is a matter of its text: it does under either policy if no error is reported while rejected
lines are skipped (`passes_lex_iff`).
-/

namespace Lexicon

open Source Segment

/-! ## Lexed files up to symbols -/

namespace LexedFile

/-- The lexed file that a run of the lexer leaves. -/
def ofRun (file : SourceFile) (run : Except LexError (Array SpannedToken) × Lexer) : LexedFile :=
  ⟨file, run.1, run.2.symbols, run.2.log.entries.toList⟩

/-- Two lexed files show the same. -/
structure Alike (a b : LexedFile) : Prop where
  diagnostics_eq : a.diagnostics = b.diagnostics
  result_eq :
    (∃ tokens tokens', a.result = .ok tokens ∧ b.result = .ok tokens' ∧
      tokens.toList.countP (·.token.isIdent) = tokens'.toList.countP (·.token.isIdent)) ∨
    ∃ e, a.result = .error e ∧ b.result = .error e

variable {a b : LexedFile}

theorem Alike.identifiers_eq (h : a.Alike b) : a.identifiers = b.identifiers := by
  unfold identifiers
  rcases h.result_eq with ⟨tokens, tokens', ha, hb, hcount⟩ | ⟨e, ha, hb⟩
  · rw [ha, hb]
    exact hcount
  · rw [ha, hb]

theorem Alike.allDiagnostics_eq (h : a.Alike b) : a.allDiagnostics = b.allDiagnostics := by
  unfold allDiagnostics
  rcases h.result_eq with ⟨tokens, tokens', ha, hb, -⟩ | ⟨e, ha, hb⟩
  · rw [ha, hb]
    exact h.diagnostics_eq
  · rw [ha, hb, h.diagnostics_eq]

theorem Alike.findings_eq (h : a.Alike b) (map : SourceMap) :
    FileFindings.of map a = FileFindings.of map b := by
  rw [FileFindings.of, FileFindings.of, h.allDiagnostics_eq, h.identifiers_eq]

end LexedFile

theorem isIdent_token? (symbols symbols' : SymbolTable) (s : Segment) :
    (s.token? symbols).map Token.isIdent = (s.token? symbols').map Token.isIdent := by
  unfold token?
  cases s.lexeme <;> rfl

/-- As many identifiers are read, whatever was interned before. -/
theorem countP_isIdent_tokensOf (symbols symbols' : SymbolTable) (segments : List Segment) :
    (tokensOf symbols segments).countP (·.token.isIdent) =
      (tokensOf symbols' segments).countP (·.token.isIdent) := by
  induction segments generalizing symbols symbols' with
  | nil => rfl
  | cons s segments ih =>
    have hs := isIdent_token? symbols symbols' s
    rw [tokensOf, tokensOf, List.countP_append, List.countP_append, ih _ (s.internIn symbols')]
    refine congrArg (· + _) ?_
    cases h : s.token? symbols <;> cases h' : s.token? symbols' <;> simp_all

/-- A run goes on alike from any table of symbols. -/
theorem alike_runFrom (file : SourceFile) (policy : RecoveryPolicy) (lx : Lexer)
    (symbols : SymbolTable) (tokens : Array SpannedToken) :
    (LexedFile.ofRun file (lx.runFrom policy tokens)).Alike
      (.ofRun file (Lexer.runFrom policy tokens { lx with symbols })) := by
  obtain ⟨segments, h⟩ := exists_segmented lx.file.id lx.cursor.pos lx.cursor.rest
  obtain ⟨lx₁, hrun₁, -, hlog₁⟩ := Lexer.runFrom_skipLine h rfl rfl rfl tokens
  obtain ⟨lx₂, hrun₂, -, hlog₂⟩ :=
    @Lexer.runFrom_skipLine _ _ _ _ { lx with symbols } h rfl rfl rfl tokens
  have hskip : (LexedFile.ofRun file (lx.runFrom .skipLine tokens)).Alike
      (.ofRun file (Lexer.runFrom .skipLine tokens { lx with symbols })) := by
    rw [hrun₁, hrun₂]
    refine ⟨?_, .inl ⟨_, _, rfl, rfl, ?_⟩⟩
    · exact congrArg (·.entries.toList) (hlog₁.trans hlog₂.symm)
    · simp [countP_isIdent_tokensOf lx.symbols symbols]
  cases policy with
  | skipLine => exact hskip
  | abort =>
    rcases forall_or_exists_rejected segments with
      hs | ⟨before, s, after, head, c, tail, rfl, hbefore, hs⟩
    · rw [Lexer.runFrom_abort_eq h rfl rfl rfl hs,
        @Lexer.runFrom_abort_eq _ _ _ _ { lx with symbols } h rfl rfl rfl hs]
      exact hskip
    · obtain ⟨lx₁, hrun₁, hlog₁⟩ := Lexer.runFrom_abort_eq_error h rfl rfl rfl hbefore hs tokens
      obtain ⟨lx₂, hrun₂, hlog₂⟩ := @Lexer.runFrom_abort_eq_error _ _ _ { lx with symbols }
        _ _ _ _ _ _ h rfl rfl rfl hbefore hs tokens
      rw [hrun₁, hrun₂]
      exact ⟨congrArg (·.entries.toList) (hlog₁.trans hlog₂.symm), .inr ⟨_, rfl, rfl⟩⟩

theorem alike_lex (lexing : Lexing) (file : SourceFile) (symbols symbols' : SymbolTable) :
    (lexing.lex file symbols).Alike (lexing.lex file symbols') :=
  alike_runFrom file lexing.policy (.ofFile file lexing.options symbols {}) symbols' #[]

/-! ## Errors in a text -/

/-- The number of errors that are reported about a text if rejected lines are skipped. -/
def errorsIn (options : LexOptions) (text : List Char) : Nat :=
  (Lexing.lex ⟨options, .skipLine⟩ (SourceMap.addFile {} "" text).1 {}).count .error

namespace LexedFile

/-- The lexing went through, and no error was reported. -/
def Passes (lexed : LexedFile) : Prop :=
  (∃ tokens, lexed.result = .ok tokens) ∧ lexed.count .error = 0

theorem countP_allDiagnostics_of_ok {lexed : LexedFile} {tokens : Array SpannedToken}
    (h : lexed.result = .ok tokens) (level : Level) :
    lexed.allDiagnostics.countP (·.level == level) = lexed.count level := by
  rw [allDiagnostics, h]
  rfl

/-- The error that ended a lexing is the last diagnostic. -/
theorem countP_allDiagnostics_eq_zero_iff (lexed : LexedFile) :
    lexed.allDiagnostics.countP (·.level == .error) = 0 ↔ lexed.Passes := by
  unfold Passes
  cases h : lexed.result with
  | ok tokens =>
    rw [countP_allDiagnostics_of_ok h]
    exact (and_iff_right ⟨tokens, rfl⟩).symm
  | error e =>
    have hlevel : (e.toDiagnostic.withNote e.message).level = .error := rfl
    simp [allDiagnostics, h, hlevel]

end LexedFile

section Errors

variable {file : SourceFile} {segments : List Segment}

theorem count_lex_skipLine (options : LexOptions) (symbols : SymbolTable)
    (h : SegmentsOf file segments) (level : Level) :
    (∃ tokens, (Lexing.lex ⟨options, .skipLine⟩ file symbols).result = .ok tokens) ∧
      (Lexing.lex ⟨options, .skipLine⟩ file symbols).count level =
        (diagnosticsOf options segments).countP (·.level == level) := by
  obtain ⟨lx, hrun, -, hlog⟩ := tokenize_skipLine options symbols {} h
  have hentries : lx.log.entries.toList = diagnosticsOf options segments := by
    rw [hlog, DiagnosticLog.toList_entries_emitAll]
    rfl
  simp only [Lexing.lex, hrun, LexedFile.count, hentries, and_true]
  exact ⟨_, rfl⟩

theorem SegmentsOf.errorsIn_eq (h : SegmentsOf file segments) (options : LexOptions) :
    errorsIn options file.text = (diagnosticsOf options segments).countP (·.level == .error) := by
  have hmoved : SegmentsOf (SourceMap.addFile {} "" file.text).1
      (segments.map (·.moveTo 0 0 0)) := h.moveTo rfl
  rw [errorsIn, (count_lex_skipLine options {} hmoved .error).2, diagnosticsOf_moveTo,
    moveReportsTo, List.countP_map]
  rfl

/-- The policy that skips lines reports all errors of a text. -/
theorem count_error_lex_skipLine (options : LexOptions) (file : SourceFile)
    (symbols : SymbolTable) :
    (∃ tokens, (Lexing.lex ⟨options, .skipLine⟩ file symbols).result = .ok tokens) ∧
      (Lexing.lex ⟨options, .skipLine⟩ file symbols).count .error = errorsIn options file.text := by
  obtain ⟨segments, h⟩ := exists_segmentsOf file
  rw [h.errorsIn_eq]
  exact count_lex_skipLine options symbols h .error

/-- Where a segment is rejected, an error is reported. -/
theorem SegmentsOf.errorsIn_ne_zero {s : Segment} {head tail : List Char} {c : Char}
    (h : SegmentsOf file segments) (hs : s ∈ segments) (hl : s.lexeme = .rejected head c tail)
    (options : LexOptions) : errorsIn options file.text ≠ 0 := by
  rw [h.errorsIn_eq, ← Nat.pos_iff_ne_zero, List.countP_pos_iff]
  exact ⟨_, invalidChar_mem_diagnosticsOf hs hl options, rfl⟩

/-- A file passes under either policy if no error is reported about its text. -/
theorem passes_lex_iff (lexing : Lexing) (file : SourceFile) (symbols : SymbolTable) :
    (lexing.lex file symbols).Passes ↔ errorsIn lexing.options file.text = 0 := by
  obtain ⟨options, policy⟩ := lexing
  have hskip : (Lexing.lex ⟨options, .skipLine⟩ file symbols).Passes ↔
      errorsIn options file.text = 0 := by
    obtain ⟨hok, hcount⟩ := count_error_lex_skipLine options file symbols
    rw [LexedFile.Passes, hcount]
    exact and_iff_right hok
  cases policy with
  | skipLine => exact hskip
  | abort =>
    obtain ⟨segments, h⟩ := exists_segmentsOf file
    rcases forall_or_exists_rejected segments with
      hs | ⟨before, s, after, head, c, tail, rfl, hbefore, hs⟩
    · have hsame : Lexing.lex ⟨options, .abort⟩ file symbols =
          Lexing.lex ⟨options, .skipLine⟩ file symbols := by
        simp only [Lexing.lex, tokenize_abort_eq options symbols {} h hs]
      rw [hsame]
      exact hskip
    · obtain ⟨lx, habort, -⟩ := tokenize_abort_eq_error options symbols {} h hbefore hs
      refine iff_of_false ?_
        (h.errorsIn_ne_zero (List.mem_append_right _ List.mem_cons_self) hs options)
      rintro ⟨⟨tokens, hok⟩, -⟩
      simp only [Lexing.lex, habort] at hok
      cases hok

end Errors

end Lexicon
