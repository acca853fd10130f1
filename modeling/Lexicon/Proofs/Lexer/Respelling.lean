import Lexicon.Listing
import Lexicon.Proofs.Assignment
import Lexicon.Proofs.Lexer.Policies
import Lexicon.Proofs.Lexer.Reports

/-!
# Warnings about respelled identifiers

A run that warns about identifiers whose names are spelled otherwise does what a run without these
warnings does, and reports nothing else (`warned_run_agrees`).  The lexer decides on a warning when
it reads the identifier; a listing finds the source spelling later, at the span of the token
(`sourceSpelling?`).  Both come to the same, since a segment spells what stands at its span
(`SegmentsOf.shownAsWarned`).
-/

namespace Lexicon

open Source Text Unicode

namespace Diagnostic

/-- The warning about an identifier spelled `raw`, which has another name. -/
def respelling (raw name : String) (span : Span) : Diagnostic where
  level := .warning
  message := s!"identifier `{raw}` is normalized to `{name}`"
  span
  code := some .identNormalized

/-- Whether a diagnostic is such a warning. -/
def isRespelling (d : Diagnostic) : Bool := d.code = some .identNormalized

end Diagnostic

/-! ## Warnings of segments -/

namespace Segment

variable {symbols table : SymbolTable} {segments : List Segment} {s : Segment}

theorem diagnostics_of_ident {raw : List Char} (hl : s.lexeme = .ident raw) (options : LexOptions) :
    s.diagnostics options =
      if options.warnNormalized && decide (String.ofList raw ≠ nameOf raw) then
        [.respelling (String.ofList raw) (nameOf raw) s.span] else [] := by
  rw [diagnostics, hl, ← isSome_normalForm?_eq]
  rfl

/-- What else is reported about a segment does not depend on the option. -/
theorem filter_not_isRespelling_diagnostics (s : Segment) :
    (s.diagnostics ⟨true⟩).filter (!·.isRespelling) = s.diagnostics ⟨false⟩ := by
  cases hl : s.lexeme with
  | ident raw =>
    rw [diagnostics_of_ident hl, diagnostics_of_ident hl, Bool.true_and, Bool.false_and,
      if_neg Bool.false_ne_true]
    split_ifs <;> rfl
  | number literal =>
    simp only [diagnostics, hl]
    split_ifs <;> rfl
  | newline | punct | invalid | eof | rejected =>
    simp only [diagnostics, hl]
    rfl

theorem filter_not_isRespelling_diagnosticsOf (segments : List Segment) :
    (diagnosticsOf ⟨true⟩ segments).filter (!·.isRespelling) = diagnosticsOf ⟨false⟩ segments := by
  induction segments with
  | nil => rfl
  | cons s segments ih =>
    rw [diagnosticsOf_cons, diagnosticsOf_cons, List.filter_append,
      filter_not_isRespelling_diagnostics, ih]

/-- Only an identifier whose name is spelled otherwise is warned about. -/
theorem exists_of_isRespelling {options : LexOptions} {d : Diagnostic}
    (hd : d ∈ s.diagnostics options) (hwarning : d.isRespelling) :
    ∃ raw, s.lexeme = .ident raw ∧ String.ofList raw ≠ nameOf raw ∧
      d = .respelling (String.ofList raw) (nameOf raw) s.span := by
  cases hl : s.lexeme with
  | ident raw =>
    rw [diagnostics_of_ident hl] at hd
    split_ifs at hd with h
    · rw [Bool.and_eq_true, decide_eq_true_eq] at h
      exact ⟨raw, rfl, h.2, List.mem_singleton.1 hd⟩
    · cases hd
  | number literal =>
    simp only [diagnostics, hl] at hd
    split_ifs at hd
    · rw [List.mem_singleton.1 hd] at hwarning
      cases hwarning
    · cases hd
  | invalid | rejected =>
    simp only [diagnostics, hl, List.mem_singleton] at hd
    rw [hd] at hwarning
    cases hwarning
  | newline | punct | eof =>
    simp only [diagnostics, hl] at hd
    cases hd

/-- An identifier token has the span of its identifier. -/
theorem span_eq_of_mem_tokensOf {t : SpannedToken} {ident : Ident}
    (ht : t ∈ tokensOf symbols segments) (hident : t.token = .ident ident) :
    ident.span = t.span := by
  induction segments generalizing symbols with
  | nil => cases ht
  | cons s segments ih =>
    rw [tokensOf, List.mem_append] at ht
    rcases ht with ht | ht
    · obtain ⟨token, htoken, rfl⟩ := List.mem_map.1 ht
      have htoken' : s.token? symbols = some (.ident ident) := hident ▸ Option.mem_toList.1 htoken
      unfold token? at htoken'
      cases hl : s.lexeme with
      | ident raw =>
        simp only [hl, Option.some.injEq, Token.ident.injEq] at htoken'
        rw [← htoken']
      | number | newline | punct | invalid | eof | rejected => simp [hl] at htoken'
    · exact ih ht

end Segment

open Segment

/-! ## Spellings in listings -/

/-- Listings show `raw?` as the source spelling of a token: in the last field of its line, and in
its record. -/
structure Shows (file : SourceFile) (symbols : SymbolTable) (t : SpannedToken)
    (raw? : Option String) : Prop where
  line : ∀ showSpans, tokenFields showSpans file symbols t =
    (if showSpans then [toString t.span.lo] else []) ++ [t.token.kind, t.token.text symbols] ++
      (raw?.map fun raw => s!"(from {raw})").toList
  record : (TokenRecord.of file symbols t).raw = raw?

theorem shows_sourceSpelling? (file : SourceFile) (symbols : SymbolTable) (t : SpannedToken) :
    Shows file symbols t (sourceSpelling? file symbols t) :=
  ⟨fun _ => rfl, rfl⟩

/-- Whether an identifier token with the name `name` is warned about is what the listings show of
it. -/
inductive ShownAsWarned (file : SourceFile) (symbols : SymbolTable) (reports : List Diagnostic)
    (t : SpannedToken) (name : String) : Prop
  /-- The warnings at its span quote the spelling that is shown, and the name. -/
  | respelled (raw : String) (warned : .respelling raw name t.span ∈ reports)
      (only : ∀ d ∈ reports, d.isRespelling → d.span = t.span → d = .respelling raw name t.span)
      (shown : Shows file symbols t (some raw))
  | asSpelled (silent : ∀ d ∈ reports, d.isRespelling → d.span ≠ t.span)
      (shown : Shows file symbols t none)

theorem SegmentsOf.shownAsWarned {file : SourceFile} {symbols table : SymbolTable}
    {segments : List Segment} {t : SpannedToken} {ident : Ident} (h : SegmentsOf file segments)
    (hx : table.Extends (symbolsAfter symbols segments)) (ht : t ∈ tokensOf symbols segments)
    (hident : t.token = .ident ident) :
    ShownAsWarned file table (diagnosticsOf ⟨true⟩ segments) t (table.textOf ident.name) := by
  have hmem : .ident ident ∈ (tokensOf symbols segments).map (·.token) :=
    hident ▸ List.mem_map_of_mem ht
  obtain ⟨s, hs, raw, hl, hspan, hname⟩ := exists_of_ident_mem_tokensOf hx hmem
  rw [span_eq_of_mem_tokensOf ht hident] at hspan
  have hsnippet : file.snippet t.span = .ok raw := by
    rw [hspan, h.snippet hs, hl]
    rfl
  have hshows := shows_sourceSpelling? file table t
  simp only [sourceSpelling?, hident, hsnippet, SymbolTable.textOf_eq hname] at hshows
  rw [SymbolTable.textOf_eq hname]
  -- A warning at this span is about an identifier that is spelled as this one is.
  have hwarning : ∀ d ∈ diagnosticsOf ⟨true⟩ segments, d.isRespelling → d.span = t.span →
      String.ofList raw ≠ nameOf raw ∧ d = .respelling (String.ofList raw) (nameOf raw) t.span := by
    intro d hd hrespelling hat
    obtain ⟨s', hs', hd⟩ := List.mem_flatMap.1 hd
    obtain ⟨raw', hl', hne, rfl⟩ := exists_of_isRespelling hd hrespelling
    have hsnippet' := h.snippet hs'
    rw [show s'.span = t.span from hat, hsnippet, hl'] at hsnippet'
    cases hsnippet'
    exact ⟨hne, by rw [show s'.span = t.span from hat]; rfl⟩
  by_cases hspelling : String.ofList raw = nameOf raw
  · rw [if_pos hspelling] at hshows
    exact .asSpelled (fun d hd hrespelling hat => (hwarning d hd hrespelling hat).1 hspelling)
      hshows
  · rw [if_neg hspelling] at hshows
    refine .respelled _ ?_ (fun d hd hrespelling hat => (hwarning d hd hrespelling hat).2) hshows
    refine List.mem_flatMap.2 ⟨s, hs, ?_⟩
    rw [diagnostics_of_ident hl, decide_eq_true hspelling, hspan]
    exact List.mem_singleton_self _

/-! ## Two runs -/

/-- Two tables from which segments yield the same tokens. -/
theorem tokensOf_eq_of_extends {symbols symbols' : SymbolTable} {segments : List Segment}
    (h : symbols' = symbols ∨ symbols'.Extends (symbolsAfter symbols segments) ∨
      symbols.Extends (symbolsAfter symbols' segments)) :
    tokensOf symbols segments = tokensOf symbols' segments := by
  rcases h with rfl | h | h
  · rfl
  · exact (tokensOf_of_extends h).symm
  · exact tokensOf_of_extends h

/-- A run that warns about respelled identifiers has the result of one that does not, and reports
the same but for the warnings; and an identifier token is warned about exactly if the listings show
its source spelling.  Both runs start from the same symbol table, or one of them from a table that
holds all names that the other has interned. -/
theorem warned_run_agrees (file : SourceFile) (policy : RecoveryPolicy)
    (symbols symbols' : SymbolTable) (log log' : DiagnosticLog)
    (htables : symbols' = symbols ∨
      symbols'.Extends (tokenize file ⟨true⟩ policy symbols log).2.symbols ∨
      symbols.Extends (tokenize file ⟨false⟩ policy symbols' log').2.symbols) :
    (tokenize file ⟨true⟩ policy symbols log).1 = (tokenize file ⟨false⟩ policy symbols' log').1 ∧
    ∃ reports,
      (tokenize file ⟨true⟩ policy symbols log).2.log = log.emitAll reports ∧
      (tokenize file ⟨false⟩ policy symbols' log').2.log =
        log'.emitAll (reports.filter (!·.isRespelling)) ∧
      ∀ tokens, (tokenize file ⟨true⟩ policy symbols log).1 = .ok tokens →
        ∀ t ∈ tokens, ∀ ident, t.token = .ident ident → ∀ table : SymbolTable,
          table.Extends (tokenize file ⟨true⟩ policy symbols log).2.symbols ∨
            table.Extends (tokenize file ⟨false⟩ policy symbols' log').2.symbols →
          ShownAsWarned file table reports t (table.textOf ident.name) := by
  obtain ⟨segments, h⟩ := exists_segmentsOf file
  rcases h.tokenize_cases policy with hok | ⟨before, c, span, herror⟩
  · obtain ⟨lx, hrun, hsymbols, hlog⟩ := hok ⟨true⟩ symbols log
    obtain ⟨lx', hrun', hsymbols', hlog'⟩ := hok ⟨false⟩ symbols' log'
    rw [hrun, hrun'] at htables ⊢
    rw [hsymbols, hsymbols'] at htables ⊢
    have htokens := tokensOf_eq_of_extends htables
    refine ⟨by rw [htokens], diagnosticsOf ⟨true⟩ segments, hlog, ?_, ?_⟩
    · rw [filter_not_isRespelling_diagnosticsOf]
      exact hlog'
    · rintro _ ⟨⟩ t ht ident hident table hx
      rw [List.mem_toArray] at ht
      rcases hx with hx | hx
      · exact h.shownAsWarned hx ht hident
      · exact h.shownAsWarned hx (htokens ▸ ht) hident
  · obtain ⟨lx, hrun, hlog⟩ := herror ⟨true⟩ symbols log
    obtain ⟨lx', hrun', hlog'⟩ := herror ⟨false⟩ symbols' log'
    rw [hrun, hrun']
    refine ⟨rfl, diagnosticsOf ⟨true⟩ before, hlog, ?_, nofun⟩
    rw [filter_not_isRespelling_diagnosticsOf]
    exact hlog'

/-- A respelled identifier and a stray character; the run without warnings starts from the symbols
of the other. -/
theorem warned_run_agrees_micro :
    ∃ (file : SourceFile) (tokens : Array SpannedToken) (warned plain : Lexer),
      file.text = "µ = x $\n".toList ∧
      tokenize file ⟨true⟩ .skipLine {} {} = (.ok tokens, warned) ∧
      tokenize file ⟨false⟩ .skipLine warned.symbols {} = (.ok tokens, plain) ∧
      warned.log.entries.toList.map (·.code) = [some .identNormalized, some .unexpectedChar] ∧
      plain.log.entries.toList = warned.log.entries.toList.filter (!·.isRespelling) ∧
      ∀ t ∈ tokens, ∀ ident, t.token = .ident ident →
        ShownAsWarned file warned.symbols warned.log.entries.toList t
          (warned.symbols.textOf ident.name) := by
  have hcodes : (tokenize { id := 0, name := "a", text := "µ = x $\n".toList } ⟨true⟩ .skipLine {}
      {}).2.log.entries.toList.map (·.code) =
        [some .identNormalized, some .unexpectedChar] := by
    decide +kernel
  obtain ⟨segments, hsegments⟩ :=
    exists_segmentsOf { id := 0, name := "a", text := "µ = x $\n".toList }
  obtain ⟨warned, hwarned, -, -⟩ := tokenize_skipLine ⟨true⟩ {} {} hsegments
  obtain ⟨plain, hplain, -, -⟩ := tokenize_skipLine ⟨false⟩ warned.symbols {} hsegments
  have htables : warned.symbols.Extends (tokenize
      { id := 0, name := "a", text := "µ = x $\n".toList } ⟨true⟩ .skipLine {} {}).2.symbols := by
    rw [hwarned]
    exact SymbolTable.extends_refl _
  obtain ⟨htokens, reports, hlog, hlog', hshown⟩ :=
    warned_run_agrees { id := 0, name := "a", text := "µ = x $\n".toList } .skipLine {}
      warned.symbols {} {} (.inr (.inl htables))
  rw [hwarned] at hcodes hlog hshown htokens
  rw [hplain] at hlog' htokens
  have hreports : warned.log.entries.toList = reports := by
    rw [hlog, DiagnosticLog.toList_entries_emitAll]
    rfl
  refine ⟨_, _, warned, plain, rfl, hwarned, ?_, hcodes, ?_, fun t ht ident hident => ?_⟩
  · exact hplain.trans (congrArg (·, plain) htokens.symm)
  · rw [hlog', hreports, DiagnosticLog.toList_entries_emitAll]
    rfl
  · rw [hreports]
    exact hshown _ rfl t ht ident hident _ (.inl (SymbolTable.extends_refl _))

end Lexicon
