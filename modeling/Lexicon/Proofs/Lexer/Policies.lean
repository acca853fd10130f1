import Lexicon.Proofs.Lexer.Naming

/-!
# The recovery policies

The two policies agree up to the first character that is rejected: a run that skips rejected lines
tells what a run that aborts returns and reports (`abort_agrees`).
-/

namespace Lexicon

open Source Text Unicode

namespace Segment

theorem token?_of_extends {symbols symbols' : SymbolTable} {s : Segment}
    (h : symbols'.Extends (s.internIn symbols)) : s.token? symbols' = s.token? symbols := by
  cases hs : s.lexeme with
  | ident raw =>
    simp only [internIn, hs] at h
    simp only [token?, hs, h.fst_intern]
  | _ => simp only [token?, hs]

/-- Segments yield the same tokens once more, when all their names are interned. -/
theorem tokensOf_of_extends {symbols symbols' : SymbolTable} {segments : List Segment}
    (h : symbols'.Extends (symbolsAfter symbols segments)) :
    tokensOf symbols' segments = tokensOf symbols segments := by
  induction segments generalizing symbols symbols' with
  | nil => rfl
  | cons s segments ih =>
    have hs : symbols'.Extends (s.internIn symbols) := h.trans (extends_symbolsAfter _ segments)
    rw [tokensOf, tokensOf, token?_of_extends hs, ih ((extends_internIn symbols' s).trans h)]

end Segment

open Segment

/-- What a run that aborts does with a file, where a run that skips lines yields `tokens` and
`reports`: the same if no character is rejected, and otherwise it fails at the first that is, and
reports what comes before. -/
def AbortsAfter (outcome : Except LexError (Array SpannedToken) × Lexer)
    (tokens : Array SpannedToken) (reports : List Diagnostic) : Prop :=
  match reports.find? Diagnostic.isRejection with
  | none => outcome.1 = .ok tokens ∧ outcome.2.log.entries.toList = reports
  | some d => ∃ e, outcome.1 = .error e ∧ e.toDiagnostic = d ∧
      outcome.2.log.entries.toList = reports.takeWhile (!·.isRejection)

/-- The reports in front of those about a rejected segment hold no rejection. -/
theorem find?_diagnosticsOf (options : LexOptions) {before : List Segment} {s : Segment}
    {head tail : List Char} {c : Char} (hbefore : ∀ s ∈ before, s.lexeme.isRejected = false)
    (hs : s.lexeme = .rejected head c tail) (after : List Segment) :
    (diagnosticsOf options (before ++ s :: after)).find? Diagnostic.isRejection =
        some (.invalidChar c (s.charSpan head c)) ∧
      (diagnosticsOf options (before ++ s :: after)).takeWhile (!·.isRejection) =
        diagnosticsOf options before := by
  have hnone : ∀ d ∈ diagnosticsOf options before, d.isRejection = false :=
    fun d => isRejection_of_mem_diagnosticsOf hbefore
  have hd : s.diagnostics options = [.invalidChar c (s.charSpan head c)] := by
    simp only [diagnostics, hs]
  have hreject : (Diagnostic.invalidChar c (s.charSpan head c)).isRejection = true := rfl
  rw [diagnosticsOf_append, diagnosticsOf_cons, hd, List.singleton_append]
  constructor
  · rw [List.find?_append, List.find?_eq_none.2 (by simpa using hnone), Option.none_or,
      List.find?_cons_of_pos hreject]
  · rw [List.takeWhile_append_of_pos (by simpa using hnone),
      List.takeWhile_cons_of_neg (by simp [hreject]), List.append_nil]

/-- A run that skips rejected lines tells what a run that aborts does.  Both start from the same
symbol table, or one of them from a table that holds all names that the other has interned. -/
theorem abort_agrees (file : SourceFile) (options : LexOptions) (symbols symbols' : SymbolTable) :
    ∃ tokens skipped, tokenize file options .skipLine symbols {} = (.ok tokens, skipped) ∧
      (symbols' = symbols ∨ symbols'.Extends skipped.symbols ∨
          symbols.Extends (tokenize file options .abort symbols' {}).2.symbols →
        AbortsAfter (tokenize file options .abort symbols' {}) tokens
          skipped.log.entries.toList) := by
  obtain ⟨segments, h⟩ := exists_segmentsOf file
  obtain ⟨skipped, hskip, hsymbols, hlog⟩ := tokenize_skipLine options symbols {} h
  refine ⟨_, skipped, hskip, fun htables => ?_⟩
  have hreports : skipped.log.entries.toList = diagnosticsOf options segments := by
    rw [hlog, DiagnosticLog.toList_entries_emitAll]
    rfl
  rw [AbortsAfter, hreports]
  cases hfind : segments.find? (·.lexeme.isRejected) with
  | none =>
    have hs : ∀ s ∈ segments, s.lexeme.isRejected = false := by
      simpa using List.find?_eq_none.1 hfind
    have hnone : (diagnosticsOf options segments).find? Diagnostic.isRejection = none :=
      List.find?_eq_none.2 fun d hd => by simp [isRejection_of_mem_diagnosticsOf hs hd]
    obtain ⟨lx, hrun, hsymbols', hlog'⟩ := tokenize_skipLine options symbols' {} h
    rw [tokenize_abort_eq options symbols' {} h hs, hrun] at htables ⊢
    have htokens : tokensOf symbols' segments = tokensOf symbols segments := by
      rcases htables with rfl | hafter | hafter
      · rfl
      · exact tokensOf_of_extends (hsymbols ▸ hafter)
      · exact (tokensOf_of_extends (hsymbols' ▸ hafter)).symm
    simp only [hnone, htokens, hlog', DiagnosticLog.toList_entries_emitAll, true_and]
    rfl
  | some s =>
    obtain ⟨before, after, head, c, tail, rfl, hbefore, hs⟩ := exists_rejected_of_find? hfind
    obtain ⟨hfirst, htake⟩ := find?_diagnosticsOf options hbefore hs after
    obtain ⟨lx, hrun, hlog'⟩ := tokenize_abort_eq_error options symbols' {} h hbefore hs
    simp only [hfirst, htake, hrun, hlog', DiagnosticLog.toList_entries_emitAll]
    exact ⟨_, rfl, rfl, rfl⟩

end Lexicon
