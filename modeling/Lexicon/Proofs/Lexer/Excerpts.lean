import Lexicon.Proofs.Lexer.Run
import Lexicon.Proofs.Source.Excerpt

/-!
# Excerpts of diagnostics

Whatever is reported about a file is about a part of one line (`IsPartOfLine`), and so is the error
that ends its lexing.  So the excerpts of all of them point at the characters that they are about
(`excerpts_point`).
-/

namespace Lexicon

open Source Text Unicode

/-! ## Lexemes within a line -/

theorem isTerminator_eq_false_of_class {p : Char → Bool} {c : Char} (hc : p c) (hn : p '\n' = false)
    (hr : p '\r' = false) : SourceFile.isTerminator c = false := by
  rw [SourceFile.isTerminator, Bool.or_eq_false_iff, beq_eq_false_iff_ne, beq_eq_false_iff_ne]
  exact ⟨ne_of_apply_ne hc hn, ne_of_apply_ne hc hr⟩

/-- Tokens but line feeds are spelled without line terminators. -/
theorem Lexeme.FollowedBy.isTerminator_eq_false {l : Lexeme} {rest : List Char}
    (h : l.FollowedBy rest) (hn : l ≠ .newline) (hl : l.isRejected = false) :
    ∀ c ∈ l.spelling, SourceFile.isTerminator c = false := by
  cases h with
  | ident h hr =>
    intro c hc
    exact isTerminator_eq_false_of_class (h.forall_isIdentContinue c hc) (by decide) (by decide)
  | number h hr =>
    intro c hc
    rcases h.isDigit_or_eq c hc with hdigit | rfl
    · exact isTerminator_eq_false_of_class hdigit (by decide) (by decide)
    · decide
  | newline => exact absurd rfl hn
  | punct mark =>
    rw [Lexeme.spelling, List.forall_mem_singleton]
    cases mark <;> rfl
  | @invalid c h =>
    rw [Lexeme.spelling, List.forall_mem_singleton, SourceFile.isTerminator,
      beq_eq_false_iff_ne.2 h.ne_newline, Bool.false_or, beq_eq_false_iff_ne]
    rintro rfl
    exact absurd h.isBlank_eq_false (by decide)
  | eof => exact List.forall_mem_nil _
  | rejected => cases hl

namespace Segment

variable {s : Segment} {options : LexOptions} {d : Diagnostic}

/-- What is reported about a segment is about its lexeme, or about the rejected character. -/
theorem span_of_mem_diagnostics (hd : d ∈ s.diagnostics options) :
    (d.span = s.span ∧ s.lexeme ≠ .newline ∧ s.lexeme ≠ .eof ∧ s.lexeme.isRejected = false) ∨
      ∃ head c tail, s.lexeme = .rejected head c tail ∧ d.span = s.charSpan head c := by
  unfold diagnostics at hd
  cases hl : s.lexeme with
  | ident text | number text =>
    rw [hl] at hd
    have hspan : d.span = s.span := by
      simp only at hd
      split_ifs at hd
      · rw [List.mem_singleton.1 hd]
      · cases hd
    exact .inl ⟨hspan, nofun, nofun, rfl⟩
  | invalid c =>
    rw [hl] at hd
    exact .inl ⟨by rw [List.mem_singleton.1 hd], nofun, nofun, rfl⟩
  | rejected head c tail =>
    rw [hl] at hd
    exact .inr ⟨head, c, tail, rfl, by rw [List.mem_singleton.1 hd]; rfl⟩
  | newline | punct | eof =>
    rw [hl] at hd
    cases hd

end Segment

open Segment

/-! ## Parts of lines -/

/-- The span covers characters of one line of the file, one at least. -/
def IsPartOfLine (file : SourceFile) (span : Span) : Prop :=
  ∃ front part back, file.text = front ++ part ++ back ∧ part ≠ [] ∧
    (∀ c ∈ part, SourceFile.isTerminator c = false) ∧
    span = ⟨Position.start.advanceOver front, Position.start.advanceOver (front ++ part), file.id⟩

section Reports

variable {file : SourceFile} {segments : List Segment} {options : LexOptions} {d : Diagnostic}

theorem SegmentsOf.isPartOfLine (h : SegmentsOf file segments)
    (hd : d ∈ diagnosticsOf options segments) : IsPartOfLine file d.span := by
  obtain ⟨s, hs, hd⟩ := List.mem_flatMap.1 hd
  obtain ⟨before, after, htext, hspan, hl⟩ := h.exists_of_mem hs
  rcases span_of_mem_diagnostics hd with ⟨hd, hn, he, hr⟩ | ⟨head, c, tail, hs, hd⟩
  · exact ⟨before, s.lexeme.spelling, after, htext, hl.spelling_ne_nil he,
      hl.isTerminator_eq_false hn hr, hd.trans hspan⟩
  · rw [hs] at htext hl
    cases hl with
    | rejected hhead hc ht hr =>
      refine ⟨before ++ head, [c], tail ++ after, ?_, List.cons_ne_nil c [], ?_, ?_⟩
      · simp [htext, Lexeme.spelling]
      · rw [List.forall_mem_singleton]
        exact isTerminator_eq_false_of_class (p := fun c => !isAscii c) (by rw [hc]; rfl)
          (by decide) (by decide)
      · simp only [hd, charSpan, hspan, Position.advanceOver_append]

/-- So does the character that an aborting run ends at. -/
theorem SegmentsOf.isPartOfLine_charSpan {s : Segment} {head tail : List Char} {c : Char}
    (h : SegmentsOf file segments) (hs : s ∈ segments) (hl : s.lexeme = .rejected head c tail) :
    IsPartOfLine file (s.charSpan head c) := by
  have hreport := invalidChar_mem_diagnosticsOf hs hl {}
  exact h.isPartOfLine hreport

end Reports

/-! ## Runs -/

/-- The diagnostic of the error that ended a run, if one did. -/
def endReport? (result : Except LexError (Array SpannedToken)) : Option Diagnostic :=
  match result with
  | .ok _ => none
  | .error e => some e.toDiagnostic

theorem exists_reports_isPartOfLine (file : SourceFile) (options : LexOptions)
    (policy : RecoveryPolicy) (symbols : SymbolTable) (log : DiagnosticLog) :
    ∃ reports, (tokenize file options policy symbols log).2.log = log.emitAll reports ∧
      ∀ d ∈ reports ++ (endReport? (tokenize file options policy symbols log).1).toList,
        IsPartOfLine file d.span := by
  obtain ⟨segments, h⟩ := exists_segmentsOf file
  obtain ⟨lx, hskip, -, hlog⟩ := tokenize_skipLine options symbols log h
  have hwhole : ∃ reports,
      (tokenize file options .skipLine symbols log).2.log = log.emitAll reports ∧
      ∀ d ∈ reports ++ (endReport? (tokenize file options .skipLine symbols log).1).toList,
        IsPartOfLine file d.span := by
    rw [hskip]
    refine ⟨_, hlog, fun d hd => ?_⟩
    rw [endReport?, Option.toList_none, List.append_nil] at hd
    exact h.isPartOfLine hd
  cases policy with
  | skipLine => exact hwhole
  | abort =>
    rcases forall_or_exists_rejected segments with
      hs | ⟨before, s, after, head, c, tail, rfl, hbefore, hs⟩
    · rw [tokenize_abort_eq options symbols log h hs]
      exact hwhole
    · obtain ⟨lx, habort, hlog⟩ := tokenize_abort_eq_error options symbols log h hbefore hs
      rw [habort]
      refine ⟨_, hlog, fun d hd => ?_⟩
      rw [endReport?, Option.toList_some, List.mem_append, List.mem_singleton] at hd
      rcases hd with hd | rfl
      · have hmem : d ∈ diagnosticsOf options (before ++ s :: after) := by
          rw [diagnosticsOf_append]
          exact List.mem_append_left _ hd
        exact h.isPartOfLine hmem
      · exact h.isPartOfLine_charSpan (List.mem_append_right _ List.mem_cons_self) hs

/-- In whatever map a file stands, the excerpts of what tokenizing the file reports, and of the
error that ends it, can be made, name the file, and have their carets under exactly the characters
that are reported. -/
theorem excerpts_point (texts : List (String × List Char)) {file : SourceFile}
    (hfile : file ∈ (SourceMap.ofTexts texts).files) (options : LexOptions)
    (policy : RecoveryPolicy) (symbols : SymbolTable) (log : DiagnosticLog) :
    ∃ reports, (tokenize file options policy symbols log).2.log = log.emitAll reports ∧
      ∀ d ∈ reports ++ (endReport? (tokenize file options policy symbols log).1).toList,
        ∃ (excerpt : Excerpt) (reported : List Char),
          (SourceMap.ofTexts texts).formatSpan d.span = .ok excerpt.text ∧
          file.snippet d.span = .ok reported ∧ excerpt.PointsAt file d.span reported := by
  obtain ⟨reports, hlog, hreports⟩ := exists_reports_isPartOfLine file options policy symbols log
  refine ⟨reports, hlog, fun d hd => ?_⟩
  obtain ⟨front, part, back, htext, hne, hpart, hspan⟩ := hreports d hd
  have hget : (SourceMap.ofTexts texts).get? d.span.file = some file := by
    rw [hspan]
    exact (SourceMap.isNumbered_ofTexts texts).get?_id hfile
  obtain ⟨hsnippet, excerpt, hformat, hpoints⟩ :=
    SourceMap.exists_excerpt hget htext hne hpart (by rw [hspan]) (by rw [hspan])
  exact ⟨excerpt, part, hformat, hsnippet, hpoints⟩

/-- The second file of a map, where an identifier cannot go on in the second line. -/
theorem excerpts_point_second_file :
    ∃ (file : SourceFile) (e : LexError) (excerpt : Excerpt),
      file ∈ (SourceMap.ofTexts [("a", []), ("b", "\uFEFFx = 1\r\nµ = a€\r\n".toList)]).files ∧
      (tokenize file ⟨true⟩ .abort {} {}).1 = .error e ∧
      excerpt.text = "--> b:2:6\n  2 | µ = a€\n    |      ^" ∧
      excerpt.PointsAt file e.span ['€'] := by
  have hfile : { id := 1, name := "b", text := "\uFEFFx = 1\r\nµ = a€\r\n".toList } ∈
      (SourceMap.ofTexts [("a", []), ("b", "\uFEFFx = 1\r\nµ = a€\r\n".toList)]).files :=
    Array.mem_of_getElem? (i := 1) rfl
  have herror : (tokenize { id := 1, name := "b", text := "\uFEFFx = 1\r\nµ = a€\r\n".toList }
      ⟨true⟩ .abort {} {}).1 = .error ⟨"b", '€', ⟨⟨16, 2, 6⟩, ⟨19, 2, 7⟩, 1⟩⟩ := by
    decide +kernel
  have hsnippet : ({ id := 1, name := "b", text := "\uFEFFx = 1\r\nµ = a€\r\n".toList } :
      SourceFile).snippet ⟨⟨16, 2, 6⟩, ⟨19, 2, 7⟩, 1⟩ = .ok ['€'] := by
    decide +kernel
  have htext : (SourceMap.ofTexts [("a", []), ("b", "\uFEFFx = 1\r\nµ = a€\r\n".toList)]).formatSpan
      ⟨⟨16, 2, 6⟩, ⟨19, 2, 7⟩, 1⟩ = .ok "--> b:2:6\n  2 | µ = a€\n    |      ^" := by
    decide +kernel
  obtain ⟨reports, -, hpoints⟩ := excerpts_point _ hfile ⟨true⟩ .abort {} {}
  rw [herror] at hpoints
  obtain ⟨excerpt, reported, hformat, hreported, hpoints⟩ :=
    hpoints _ (List.mem_append_right _ (List.mem_singleton_self _))
  obtain rfl : ['€'] = reported := Except.ok.inj (hsnippet.symm.trans hreported)
  exact ⟨_, _, excerpt, hfile, herror, Except.ok.inj (hformat.symm.trans htext), hpoints⟩

end Lexicon
