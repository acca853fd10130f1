import Lexicon.Proofs.Lexer.Run
import Lexicon.Proofs.Unicode.Normalization

/-!
# What is reported

Every token that calls for a report gets exactly one, at its span, and so does every character that
is rejected.  The reports follow each other in the order of the text, behind what the log held
before (`reports_exact`).
-/

namespace Lexicon

open Source Text Unicode

/-! ## Reports of one kind -/

/-- The spans of the reports with a code. -/
def spansOf (code : DiagnosticCode) (reports : List Diagnostic) : List Span :=
  (reports.filter (·.code = some code)).map (·.span)

theorem spansOf_append (code : DiagnosticCode) (a b : List Diagnostic) :
    spansOf code (a ++ b) = spansOf code a ++ spansOf code b := by
  rw [spansOf, List.filter_append, List.map_append, spansOf, spansOf]

def Token.isInvalid : Token → Bool
  | invalid _ => true
  | _ => false

/-- Whether a token is a number whose literal writes one that no word holds. -/
def SpannedToken.isTooLarge (file : SourceFile) (t : SpannedToken) : Bool :=
  match t.token, file.snippet t.span with
  | .number _, .ok literal => UInt64.size ≤ Numeral.decimalValue literal
  | _, _ => false

/-- Whether a token is an identifier that is spelled otherwise than its name. -/
def SpannedToken.isRespelled (file : SourceFile) (symbols : SymbolTable) (t : SpannedToken) :
    Bool :=
  match t.token, file.snippet t.span with
  | .ident id, .ok raw => String.ofList raw ≠ symbols.textOf id.name
  | _, _ => false

namespace Segment

variable {file : SourceFile} {options : LexOptions} {symbols symbols' : SymbolTable} {s : Segment}

/-- The token of a segment with its span, if there is one. -/
def spanned (symbols : SymbolTable) (s : Segment) : List SpannedToken :=
  (s.token? symbols).toList.map (⟨·, s.span⟩)

theorem tokensOf_cons (symbols : SymbolTable) (s : Segment) (segments : List Segment) :
    tokensOf symbols (s :: segments) =
      s.spanned symbols ++ tokensOf (s.internIn symbols) segments := rfl

theorem spansOf_unexpectedChar :
    spansOf .unexpectedChar (s.diagnostics options) =
      ((s.spanned symbols).filter (·.token.isInvalid)).map (·.span) := by
  unfold spansOf diagnostics spanned token?
  cases s.lexeme with
  | ident raw =>
    simp only
    split_ifs <;> rfl
  | number literal =>
    simp only
    split_ifs <;> rfl
  | newline | punct | invalid | eof | rejected => rfl

theorem spansOf_numberTooLarge {rest : List Char} (hl : s.lexeme.FollowedBy rest)
    (hs : file.snippet s.span = .ok s.lexeme.spelling) :
    spansOf .numberTooLarge (s.diagnostics options) =
      ((s.spanned symbols).filter (·.isTooLarge file)).map (·.span) := by
  unfold spansOf diagnostics spanned token?
  cases hlexeme : s.lexeme with
  | number literal =>
    rw [hlexeme] at hs hl
    cases hl with
    | number hliteral hstop =>
      have hvalue := Numeral.value?_eq hliteral
      have hlarge : ∀ value, SpannedToken.isTooLarge file ⟨.number value, s.span⟩ =
          decide (UInt64.size ≤ Numeral.decimalValue literal) := by
        intro value
        unfold SpannedToken.isTooLarge
        rw [hs]
        rfl
      by_cases hlt : Numeral.decimalValue literal < UInt64.size
      · have hsmall := hlarge (UInt64.ofNat (Numeral.decimalValue literal))
        rw [decide_eq_false (Nat.not_le.2 hlt)] at hsmall
        rw [if_pos hlt] at hvalue
        simp [hvalue, hsmall]
      · have hlarge := hlarge Numeral.largest
        rw [decide_eq_true (Nat.not_lt.1 hlt)] at hlarge
        rw [if_neg hlt] at hvalue
        simp [hvalue, hlarge]
  | ident raw =>
    simp only
    split_ifs <;> rfl
  | newline | punct | invalid | eof | rejected => rfl

/-- A spelling has a normal form of its own exactly if it differs from the name. -/
theorem isSome_normalForm?_eq (raw : List Char) :
    (normalForm? raw).isSome = decide (String.ofList raw ≠ nameOf raw) := by
  rw [Bool.eq_iff_iff, isSome_normalForm?_iff, decide_eq_true_eq, nameOf, normalize_eq_nfkc,
    ne_eq, ne_eq, String.ofList_inj, eq_comm]

theorem spansOf_identNormalized (hs : file.snippet s.span = .ok s.lexeme.spelling)
    (hx : symbols'.Extends (s.internIn symbols)) :
    spansOf .identNormalized (s.diagnostics options) =
      ((s.spanned symbols).filter fun t =>
        options.warnNormalized && t.isRespelled file symbols').map (·.span) := by
  unfold spansOf diagnostics spanned token?
  unfold internIn at hx
  cases hlexeme : s.lexeme with
  | ident raw =>
    rw [hlexeme] at hs
    simp only [hlexeme] at hx
    have hname := SymbolTable.textOf_intern_of_extends hx
    have hform := isSome_normalForm?_eq raw
    cases hwarn : options.warnNormalized with
    | false => simp
    | true =>
      by_cases hspelling : String.ofList raw = nameOf raw
      · simp [hform, hspelling, SpannedToken.isRespelled, hs, Lexeme.spelling, hname]
      · simp [hform, hspelling, SpannedToken.isRespelled, hs, Lexeme.spelling, hname]
  | number literal =>
    have hcode : DiagnosticCode.numberTooLarge ≠ .identNormalized := by decide
    simp only
    split_ifs <;> simp [SpannedToken.isRespelled, hcode]
  | invalid c =>
    have hcode : DiagnosticCode.unexpectedChar ≠ .identNormalized := by decide
    simp [SpannedToken.isRespelled, hcode]
  | rejected head c tail =>
    have hcode : DiagnosticCode.invalidIdentChar ≠ .identNormalized := by decide
    simp [Diagnostic.invalidChar, hcode]
  | newline | punct | eof => simp [SpannedToken.isRespelled]

/-- Reports that go with the tokens of every segment go with all tokens. -/
theorem spansOf_diagnosticsOf {code : DiagnosticCode} {p : SpannedToken → Bool}
    {segments : List Segment} (hx : symbols'.Extends (symbolsAfter symbols segments))
    (hstep : ∀ s ∈ segments, ∀ symbols : SymbolTable, symbols'.Extends (s.internIn symbols) →
      spansOf code (s.diagnostics options) = ((s.spanned symbols).filter p).map (·.span)) :
    spansOf code (diagnosticsOf options segments) =
      ((tokensOf symbols segments).filter p).map (·.span) := by
  induction segments generalizing symbols with
  | nil => rfl
  | cons s segments ih =>
    rw [List.forall_mem_cons] at hstep
    have hs : symbols'.Extends (s.internIn symbols) := hx.trans (extends_symbolsAfter _ segments)
    rw [diagnosticsOf_cons, spansOf_append, hstep.1 symbols hs, ih hx hstep.2, tokensOf_cons,
      List.filter_append, List.map_append]

theorem exists_of_rejection?_eq_some {d : Diagnostic} (h : s.rejection? = some d) :
    ∃ head c tail, s.lexeme = .rejected head c tail ∧ d = .invalidChar c (s.charSpan head c) := by
  unfold rejection? at h
  cases hl : s.lexeme with
  | rejected head c tail =>
    rw [hl, Option.some.injEq] at h
    exact ⟨head, c, tail, rfl, h.symm⟩
  | ident | number | newline | punct | invalid | eof => simp [hl] at h

/-- A report about a segment has a known code and the level that goes with it, and it begins within
the lexeme. -/
structure IsReportOn (s : Segment) (d : Diagnostic) : Prop where
  code : ∃ code ∈ DiagnosticCode.known, d.code = some code ∧
    d.level = if code = .identNormalized then .warning else .error
  lo : ∃ front back, s.lexeme.spelling = front ++ back ∧ (s.lexeme.spelling ≠ [] → back ≠ []) ∧
    d.span.lo = s.span.lo.advanceOver front

/-- At most one report is about a segment. -/
theorem diagnostics_cases (options : LexOptions) (s : Segment) :
    s.diagnostics options = [] ∨ ∃ d, s.diagnostics options = [d] ∧ s.IsReportOn d := by
  unfold diagnostics
  cases hlexeme : s.lexeme with
  | ident raw =>
    simp only
    split_ifs
    · exact .inr ⟨_, rfl, ⟨_, by decide, rfl, rfl⟩, [], raw, by rw [hlexeme]; rfl,
        by rw [hlexeme]; exact id, rfl⟩
    · exact .inl rfl
  | number literal =>
    simp only
    split_ifs
    · exact .inr ⟨_, rfl, ⟨_, by decide, rfl, rfl⟩, [], literal, by rw [hlexeme]; rfl,
        by rw [hlexeme]; exact id, rfl⟩
    · exact .inl rfl
  | invalid c =>
    exact .inr ⟨_, rfl, ⟨_, by decide, rfl, rfl⟩, [], [c], by rw [hlexeme]; rfl,
      fun _ => List.cons_ne_nil c [], rfl⟩
  | rejected head c tail =>
    exact .inr ⟨_, rfl, ⟨_, by decide, rfl, rfl⟩, head, c :: tail, by rw [hlexeme]; rfl,
      fun _ => List.cons_ne_nil c tail, rfl⟩
  | newline | punct | eof => exact .inl rfl

theorem isReportOn_of_mem {options : LexOptions} {d : Diagnostic}
    (hd : d ∈ s.diagnostics options) : s.IsReportOn d := by
  rcases s.diagnostics_cases options with hnil | ⟨e, he, hreport⟩
  · rw [hnil] at hd
    cases hd
  · rw [he, List.mem_singleton] at hd
    rwa [hd]

theorem pairwise_diagnostics (options : LexOptions) (s : Segment)
    (r : Diagnostic → Diagnostic → Prop) : (s.diagnostics options).Pairwise r := by
  rcases s.diagnostics_cases options with hnil | ⟨d, hd, -⟩
  · rw [hnil]
    exact List.Pairwise.nil
  · rw [hd]
    exact List.pairwise_singleton r d

end Segment

open Segment

/-! ## The order of reports -/

namespace Segmented

variable {file : FileId} {p : Position} {text : List Char} {segments : List Segment}
  {options : LexOptions}

/-- Reports are about places in the text. -/
theorem exists_lo_eq (h : Segmented file p text segments) {d : Diagnostic}
    (hd : d ∈ diagnosticsOf options segments) : ∃ before, d.span.lo = p.advanceOver before := by
  obtain ⟨s, hs, hds⟩ := List.mem_flatMap.1 hd
  obtain ⟨front, back, rfl⟩ := List.append_of_mem hs
  obtain ⟨rest, -, hrest⟩ := h.exists_of_append (List.cons_ne_nil _ _)
  obtain ⟨hlo, -⟩ := hrest.lo_span
  obtain ⟨head, -, -, -, hd⟩ := (isReportOn_of_mem hds).lo
  refine ⟨front.flatMap Segment.text ++ (s.gap ++ head), ?_⟩
  rw [hd, hlo, Position.advanceOver_append, Position.advanceOver_append]

theorem offset_le_lo (h : Segmented file p text segments) {d : Diagnostic}
    (hd : d ∈ diagnosticsOf options segments) : p.offset ≤ d.span.lo.offset := by
  obtain ⟨before, hlo⟩ := h.exists_lo_eq hd
  rw [hlo]
  exact p.offset_le_advanceOver before

theorem line_le_lo (h : Segmented file p text segments) {d : Diagnostic}
    (hd : d ∈ diagnosticsOf options segments) : p.line ≤ d.span.lo.line := by
  obtain ⟨before, hlo⟩ := h.exists_lo_eq hd
  rw [hlo, Position.line_advanceOver]
  exact Nat.le_add_right _ _

/-- Every report begins behind the one before. -/
theorem pairwise_offset (h : Segmented file p text segments) :
    (diagnosticsOf options segments).Pairwise fun d e => d.span.lo.offset < e.span.lo.offset := by
  induction h with
  | eof hg => exact List.Pairwise.nil
  | @cons p text gap rest l segments ht hg hl hne h ih =>
    rw [diagnosticsOf_cons, List.pairwise_append]
    refine ⟨pairwise_diagnostics _ _ _, ih, fun d hd e he => ?_⟩
    obtain ⟨front, back, hspelling, hback, hlo⟩ := (isReportOn_of_mem hd).lo
    have hpos : 0 < byteLength back := byteLength_pos (hback (hl.spelling_ne_nil hne))
    have hle := h.offset_le_lo he
    have hspan : (Segment.place file p gap l).span.lo = p.advanceOver gap := rfl
    have hlexeme : l.spelling = front ++ back := hspelling
    rw [hlexeme, ← List.append_assoc, Position.offset_advanceOver, byteLength_append] at hle
    rw [hlo, hspan, ← Position.advanceOver_append, Position.offset_advanceOver]
    omega

/-- At the end of a line nothing more is reported about the line. -/
theorem line_lt_lo_of_atLineEnd (h : Segmented file p text segments) (ht : AtLineEnd text)
    {d : Diagnostic} (hd : d ∈ diagnosticsOf options segments) : p.line < d.span.lo.line := by
  cases h with
  | eof hg => cases hd
  | @cons _ _ gap rest l segments htext hg hl hne h =>
    subst htext
    obtain rfl := ht.eq_nil hg.newline_notMem
    rw [List.nil_append] at ht
    have hl' : l = .newline := by
      by_contra hn
      exact hl.spelling_ne_nil hne (ht.eq_nil (hl.newline_notMem hn))
    subst hl'
    have hle := h.line_le_lo hd
    rw [Position.line_advanceOver] at hle
    exact hle

/-- No two rejected characters stand on one line. -/
theorem pairwise_line (h : Segmented file p text segments) :
    (segments.filterMap rejection?).Pairwise fun d e => d.span.lo.line < e.span.lo.line := by
  induction h with
  | eof hg => exact List.Pairwise.nil
  | @cons p text gap rest l segments ht hg hl hne h ih =>
    cases hl with
    | @rejected head tail _ c hhead hc htail hr =>
      have hsome : rejection? (.place file p gap (.rejected head c tail)) =
          some (.invalidChar c ((place file p gap (.rejected head c tail)).charSpan head c)) := rfl
      rw [List.filterMap_cons_some hsome, List.pairwise_cons]
      refine ⟨fun e he => ?_, ih⟩
      rw [← filter_isRejection_diagnosticsOf {}] at he
      have hlt := h.line_lt_lo_of_atLineEnd hr (List.mem_filter.1 he).1
      have hhead' := newline_notMem_of_isIdentifier (hhead.imp And.left And.left)
      have hlo : ((Segment.place file p gap (.rejected head c tail)).charSpan head c).lo =
          p.advanceOver (gap ++ head) := by
        rw [Position.advanceOver_append]
        rfl
      have hline : (p.advanceOver (gap ++ head)).line = p.line := by
        rw [Position.line_advanceOver, List.count_append, List.count_eq_zero.2 hg.newline_notMem,
          List.count_eq_zero.2 hhead']
        rfl
      rw [Position.line_advanceOver] at hlt
      simp only [Diagnostic.invalidChar, hlo, hline]
      omega
    | ident | number | newline | punct | invalid | eof => exact ih

end Segmented

/-! ## Whole files -/

theorem SegmentsOf.snippet_charSpan {file : SourceFile} {segments : List Segment} {s : Segment}
    {head tail : List Char} {c : Char} (h : SegmentsOf file segments) (hs : s ∈ segments)
    (hl : s.lexeme = .rejected head c tail) :
    file.snippet (s.charSpan head c) = .ok [c] ∧ isAscii c = false := by
  obtain ⟨before, after, hspan, hfollowed⟩ := h.exists_spanOf_charSpan hs hl
  cases hfollowed with
  | rejected _ hc _ _ => exact ⟨hspan.snippet_eq, hc⟩

/-- The reports about a file with the given tokens are exactly those that tokens and rejected
characters call for. -/
structure ExactReports (file : SourceFile) (options : LexOptions) (policy : RecoveryPolicy)
    (symbols : SymbolTable) (tokens : List SpannedToken) (reports : List Diagnostic) : Prop where
  increasing : reports.Pairwise fun d e => d.span.lo.offset < e.span.lo.offset
  spelled : ∀ t ∈ tokens, ∃ spelling, file.snippet t.span = .ok spelling
  invalid : spansOf .unexpectedChar reports = (tokens.filter (·.token.isInvalid)).map (·.span)
  tooLarge : spansOf .numberTooLarge reports = (tokens.filter (·.isTooLarge file)).map (·.span)
  respelled : spansOf .identNormalized reports =
    (tokens.filter fun t => options.warnNormalized && t.isRespelled file symbols).map (·.span)
  /-- Nothing is rejected unless rejected lines are skipped. -/
  skipLine : ∀ d ∈ reports, d.isRejection → policy = .skipLine
  /-- A rejection is about a single character beyond ASCII. -/
  char : ∀ d ∈ reports, d.isRejection → ∃ c, file.snippet d.span = .ok [c] ∧ isAscii c = false
  /-- No line has two rejections. -/
  lines : (reports.filter Diagnostic.isRejection).Pairwise fun d e =>
    d.span.lo.line < e.span.lo.line
  known : ∀ d ∈ reports, ∃ code ∈ DiagnosticCode.known, d.code = some code ∧
    d.level = if code = .identNormalized then .warning else .error

theorem SegmentsOf.exactReports {file : SourceFile} {segments : List Segment}
    {policy : RecoveryPolicy} (h : SegmentsOf file segments)
    (habort : policy = .abort → ∀ s ∈ segments, s.lexeme.isRejected = false)
    (options : LexOptions) (symbols : SymbolTable) :
    ExactReports file options policy (symbolsAfter symbols segments) (tokensOf symbols segments)
      (diagnosticsOf options segments) where
  increasing := h.pairwise_offset
  spelled t ht := by
    obtain ⟨s, hs, hspan⟩ := exists_of_mem_tokensOf ht
    exact ⟨s.lexeme.spelling, hspan ▸ h.snippet hs⟩
  invalid := spansOf_diagnosticsOf (SymbolTable.extends_refl _) fun _ _ _ _ =>
    spansOf_unexpectedChar
  tooLarge := spansOf_diagnosticsOf (SymbolTable.extends_refl _) fun s hs _ _ => by
    obtain ⟨_, after, -, -, hl⟩ := h.exists_of_mem hs
    exact spansOf_numberTooLarge hl (h.snippet hs)
  respelled := spansOf_diagnosticsOf (SymbolTable.extends_refl _) fun s hs _ hx =>
    spansOf_identNormalized (h.snippet hs) hx
  skipLine d hd hreject := by
    cases policy with
    | skipLine => rfl
    | abort =>
      rw [isRejection_of_mem_diagnosticsOf (habort rfl) hd] at hreject
      cases hreject
  char d hd hreject := by
    have hmem := List.mem_filter.2 ⟨hd, hreject⟩
    rw [filter_isRejection_diagnosticsOf] at hmem
    obtain ⟨s, hs, hd⟩ := List.mem_filterMap.1 hmem
    obtain ⟨head, c, tail, hl, rfl⟩ := exists_of_rejection?_eq_some hd
    exact ⟨c, h.snippet_charSpan hs hl⟩
  lines := by
    rw [filter_isRejection_diagnosticsOf]
    exact h.pairwise_line
  known d hd := by
    obtain ⟨s, -, hd⟩ := List.mem_flatMap.1 hd
    exact (isReportOn_of_mem hd).code

/-- Whenever tokenizing a file succeeds, the log keeps what it held, and behind it stand exactly the
reports that the tokens and the rejected characters call for. -/
theorem reports_exact {file : SourceFile} {options : LexOptions} {policy : RecoveryPolicy}
    {symbols : SymbolTable} {log : DiagnosticLog} {tokens : Array SpannedToken} {lx : Lexer}
    (h : tokenize file options policy symbols log = (.ok tokens, lx)) :
    ∃ reports, lx.log.entries.toList = log.entries.toList ++ reports ∧
      ExactReports file options policy lx.symbols tokens.toList reports := by
  obtain ⟨segments, hsegments, habort, htokens, hsymbols, hlog⟩ := exists_of_tokenize_eq_ok h
  refine ⟨diagnosticsOf options segments, ?_, ?_⟩
  · rw [hlog, DiagnosticLog.toList_entries_emitAll]
  · rw [htokens, hsymbols]
    exact hsegments.exactReports habort options symbols

/-- A file with a report of every kind, the last one about a rejected character. -/
theorem reports_exact_every_code :
    ∃ (file : SourceFile) (tokens : Array SpannedToken) (lx : Lexer),
      file.text = "µ = 18446744073709551616 $\n€ x\n".toList ∧
      tokenize file ⟨true⟩ .skipLine {} {} = (.ok tokens, lx) ∧
      lx.log.entries.toList.map (·.code) = [some .identNormalized, some .numberTooLarge,
        some .unexpectedChar, some .invalidIdentChar] ∧
      ExactReports file ⟨true⟩ .skipLine lx.symbols tokens.toList lx.log.entries.toList := by
  have hcodes : (tokenize
      { id := 0, name := "a", text := "µ = 18446744073709551616 $\n€ x\n".toList } ⟨true⟩
      .skipLine {} {}).2.log.entries.toList.map (·.code) = [some .identNormalized,
        some .numberTooLarge, some .unexpectedChar, some .invalidIdentChar] := by
    decide +kernel
  obtain ⟨segments, hsegments⟩ := exists_segmentsOf
    { id := 0, name := "a", text := "µ = 18446744073709551616 $\n€ x\n".toList }
  obtain ⟨lx, hok, -, -⟩ := tokenize_skipLine ⟨true⟩ {} {} hsegments
  obtain ⟨reports, hlog, hexact⟩ := reports_exact hok
  rw [show reports = lx.log.entries.toList from hlog.symm] at hexact
  rw [hok] at hcodes
  exact ⟨_, _, lx, rfl, hok, hcodes, hexact⟩

end Lexicon
