import Lexicon.Proofs.Lexer.Reading

/-!
# Runs over a text

A run that skips rejected lines reads all segments of a text, and ends with the tokens, the symbols
and the diagnostics of all of them (`runFrom_skipLine`).  A run that aborts does the same if no
segment is rejected (`runFrom_abort_eq`), and otherwise ends at the first that is, with what the
segments before it report (`runFrom_abort_eq_error`).

A file is read from behind its byte order mark on (`tokenize_skipLine`, `tokenize_abort_eq`,
`tokenize_abort_eq_error`).
-/

namespace Lexicon

open Source Text Unicode

namespace Segment

/-- The tokens of segments. -/
def tokensOf (symbols : SymbolTable) : List Segment → List SpannedToken
  | [] => []
  | s :: segments =>
    (s.token? symbols).toList.map (⟨·, s.span⟩) ++ tokensOf (s.internIn symbols) segments

/-- The symbols after segments. -/
def symbolsAfter (symbols : SymbolTable) (segments : List Segment) : SymbolTable :=
  segments.foldl internIn symbols

/-- What is reported about segments. -/
def diagnosticsOf (options : LexOptions) (segments : List Segment) : List Diagnostic :=
  segments.flatMap (·.diagnostics options)

theorem extends_internIn (symbols : SymbolTable) (s : Segment) :
    (s.internIn symbols).Extends symbols := by
  unfold internIn
  split
  · exact symbols.extends_intern _
  · exact symbols.extends_refl

theorem extends_symbolsAfter (symbols : SymbolTable) (segments : List Segment) :
    (symbolsAfter symbols segments).Extends symbols := by
  induction segments generalizing symbols with
  | nil => exact symbols.extends_refl
  | cons s segments ih => exact (ih (s.internIn symbols)).trans (extends_internIn symbols s)

theorem diagnosticsOf_cons (options : LexOptions) (s : Segment) (segments : List Segment) :
    diagnosticsOf options (s :: segments) =
      s.diagnostics options ++ diagnosticsOf options segments :=
  List.flatMap_cons

theorem diagnosticsOf_append (options : LexOptions) (a b : List Segment) :
    diagnosticsOf options (a ++ b) = diagnosticsOf options a ++ diagnosticsOf options b :=
  List.flatMap_append

theorem tokensOf_append (symbols : SymbolTable) (a b : List Segment) :
    tokensOf symbols (a ++ b) = tokensOf symbols a ++ tokensOf (symbolsAfter symbols a) b := by
  induction a generalizing symbols with
  | nil => rfl
  | cons s a ih =>
    rw [List.cons_append, tokensOf, tokensOf, ih, List.append_assoc]
    rfl

theorem map_token_tokensOf_cons (symbols : SymbolTable) (s : Segment) (segments : List Segment) :
    (tokensOf symbols (s :: segments)).map (·.token) =
      (s.token? symbols).toList ++ (tokensOf (s.internIn symbols) segments).map (·.token) := by
  rw [tokensOf, List.map_append, List.map_map]
  exact congrArg (· ++ _) (List.map_id _)

/-- A token has the span of its segment. -/
theorem exists_of_mem_tokensOf {symbols : SymbolTable} {segments : List Segment}
    {t : SpannedToken} (h : t ∈ tokensOf symbols segments) : ∃ s ∈ segments, t.span = s.span := by
  induction segments generalizing symbols with
  | nil => cases h
  | cons s segments ih =>
    rw [tokensOf, List.mem_append] at h
    rcases h with h | h
    · obtain ⟨token, -, rfl⟩ := List.mem_map.1 h
      exact ⟨s, List.mem_cons_self, rfl⟩
    · obtain ⟨s', hs', hspan⟩ := ih h
      exact ⟨s', List.mem_cons_of_mem s hs', hspan⟩

/-- The reports of rejected segments are the rejections among the reports. -/
theorem filter_isRejection_diagnosticsOf (options : LexOptions) (segments : List Segment) :
    (diagnosticsOf options segments).filter Diagnostic.isRejection =
      segments.filterMap rejection? := by
  induction segments with
  | nil => rfl
  | cons s segments ih =>
    rw [diagnosticsOf_cons, List.filter_append, filter_isRejection_diagnostics, ih,
      List.filterMap_cons]
    cases s.rejection? <;> rfl

theorem isRejection_of_mem_diagnosticsOf {options : LexOptions} {segments : List Segment}
    (h : ∀ s ∈ segments, s.lexeme.isRejected = false) {d : Diagnostic}
    (hd : d ∈ diagnosticsOf options segments) : d.isRejection = false := by
  have hnil : (diagnosticsOf options segments).filter Diagnostic.isRejection = [] := by
    rw [filter_isRejection_diagnosticsOf, List.filterMap_eq_nil_iff]
    exact fun s hs => (rejection?_eq_none_iff s).2 (h s hs)
  simpa using List.filter_eq_nil_iff.1 hnil d hd

theorem token?_eq_none_iff (symbols : SymbolTable) (s : Segment) :
    s.token? symbols = none ↔ s.lexeme.isRejected := by
  cases hs : s.lexeme <;> simp [token?, Lexeme.isRejected, hs]

theorem exists_token?_of_not_isRejected (symbols : SymbolTable) {s : Segment}
    (h : s.lexeme.isRejected = false) : ∃ token, s.token? symbols = some token := by
  rw [← Option.ne_none_iff_exists']
  intro hnone
  rw [token?_eq_none_iff, h] at hnone
  cases hnone

theorem exists_eq_rejected {l : Lexeme} (h : l.isRejected) :
    ∃ head c tail, l = .rejected head c tail := by
  cases l with
  | rejected head c tail => exact ⟨head, c, tail, rfl⟩
  | _ => cases h

/-- The segments in front of the first one that is rejected. -/
theorem exists_rejected_of_find? {segments : List Segment} {s : Segment}
    (h : segments.find? (·.lexeme.isRejected) = some s) :
    ∃ before after head c tail, segments = before ++ s :: after ∧
      (∀ s ∈ before, s.lexeme.isRejected = false) ∧ s.lexeme = .rejected head c tail := by
  obtain ⟨hs, before, after, hsegments, hbefore⟩ := List.find?_eq_some_iff_append.1 h
  obtain ⟨head, c, tail, hl⟩ := exists_eq_rejected hs
  exact ⟨before, after, head, c, tail, hsegments, fun s hs => by simpa using hbefore s hs, hl⟩

/-- Either no segment is rejected, or one is the first. -/
theorem forall_or_exists_rejected (segments : List Segment) :
    (∀ s ∈ segments, s.lexeme.isRejected = false) ∨
      ∃ before s after head c tail, segments = before ++ s :: after ∧
        (∀ s ∈ before, s.lexeme.isRejected = false) ∧ s.lexeme = .rejected head c tail := by
  cases hfind : segments.find? (·.lexeme.isRejected) with
  | none => exact .inl (by simpa using List.find?_eq_none.1 hfind)
  | some s =>
    obtain ⟨before, after, h⟩ := exists_rejected_of_find? hfind
    exact .inr ⟨before, s, after, h⟩

/-- A rejected character is reported. -/
theorem invalidChar_mem_diagnosticsOf {segments : List Segment} {s : Segment}
    {head tail : List Char} {c : Char} (hs : s ∈ segments)
    (hl : s.lexeme = .rejected head c tail) (options : LexOptions) :
    Diagnostic.invalidChar c (s.charSpan head c) ∈ diagnosticsOf options segments := by
  refine List.mem_flatMap.2 ⟨s, hs, ?_⟩
  rw [diagnostics, hl]
  exact List.mem_singleton_self _

theorem token?_eq_eof_iff (symbols : SymbolTable) (s : Segment) :
    s.token? symbols = some .eof ↔ s.lexeme = .eof := by
  cases hs : s.lexeme <;> simp [token?, hs]

end Segment

open Segment

namespace Lexer

variable {file : FileId} {p : Position} {text : List Char} {segments : List Segment} {lx : Lexer}

/-! ## Steps of a run -/

theorem runFrom_of_ok {policy : RecoveryPolicy} {t : SpannedToken} {lx' : Lexer}
    (h : lx.nextSpanned = (.ok t, lx')) (ht : t.token ≠ .eof) (tokens : Array SpannedToken) :
    lx.runFrom policy tokens = lx'.runFrom policy (tokens.push t) := by
  rw [runFrom]
  split
  · next h' =>
    rw [h] at h'
    obtain ⟨ht', rfl⟩ := Prod.mk.inj h'
    cases ht'
    rw [dif_neg ht]
  · next h' =>
    rw [h] at h'
    cases h'

theorem runFrom_of_eof {policy : RecoveryPolicy} {t : SpannedToken} {lx' : Lexer}
    (h : lx.nextSpanned = (.ok t, lx')) (ht : t.token = .eof) (tokens : Array SpannedToken) :
    lx.runFrom policy tokens = (.ok (tokens.push t), lx') := by
  rw [runFrom]
  split
  · next h' =>
    rw [h] at h'
    obtain ⟨ht', rfl⟩ := Prod.mk.inj h'
    cases ht'
    rw [dif_pos ht]
  · next h' =>
    rw [h] at h'
    cases h'

theorem runFrom_abort_of_error {e : LexError} {lx' : Lexer}
    (h : lx.nextSpanned = (.error e, lx')) (tokens : Array SpannedToken) :
    lx.runFrom .abort tokens = (.error e, lx') := by
  rw [runFrom]
  split
  · next h' =>
    rw [h] at h'
    cases h'
  · next h' =>
    rw [h] at h'
    cases h'
    rfl

theorem runFrom_skipLine_of_error {e : LexError} {lx' : Lexer}
    (h : lx.nextSpanned = (.error e, lx')) (tokens : Array SpannedToken) :
    lx.runFrom .skipLine tokens =
      ({ lx' with log := lx'.log.emit e.toDiagnostic } : Lexer).skipLine.runFrom .skipLine
        tokens := by
  rw [runFrom]
  split
  · next h' =>
    rw [h] at h'
    cases h'
  · next h' =>
    rw [h] at h'
    cases h'
    rfl

/-- Skipping its line brings the lexer from the rejected character to the end of the segment. -/
theorem runFrom_skipLine_of_rejected {gap rest head tail : List Char} {c : Char} {l : Lexeme}
    (h : lx.cursor.rest = gap ++ (l.spelling ++ rest)) (hg : IsTrivia gap (l.spelling ++ rest))
    (hl : l.FollowedBy rest) (hs : l = .rejected head c tail) (tokens : Array SpannedToken) :
    lx.runFrom .skipLine tokens =
      Lexer.runFrom .skipLine tokens
        { lx.past (.place lx.file.id lx.cursor.pos gap l) rest with finished := false } := by
  have hline : (lx.cursor.moveOver (gap ++ head) (c :: (tail ++ rest))).eatWhile (· != '\n') =
      (lx.cursor.moveOver (gap ++ head) (c :: (tail ++ rest))).moveOver (c :: tail) rest := by
    subst hs
    cases hl with
    | rejected hhead hc ht hr =>
      refine Cursor.eatWhile_eq_moveOver rfl (fun d hd => ?_) fun d hd => by simp [hr d hd]
      rcases List.mem_cons.1 hd with rfl | hd
      · simpa using Lexeme.ne_newline_of_not_isAscii hc
      · simpa using fun hn : d = '\n' => ht (hn ▸ hd)
  rw [runFrom_skipLine_of_error (nextSpanned_eq_error h hg hl hs)]
  simp only [skipLine, skipComment, hline, Cursor.moveOver_moveOver, LexError.toDiagnostic_eq]
  subst hs
  simp [past, Segment.place, Segment.text, Segment.internIn, Segment.diagnostics,
    Lexeme.spelling, DiagnosticLog.emitAll_singleton]

/-- Behind the last gap every run ends. -/
theorem runFrom_of_isTrivia (policy : RecoveryPolicy) (hg : IsTrivia lx.cursor.rest [])
    (tokens : Array SpannedToken) :
    lx.runFrom policy tokens =
      (.ok (tokens.push
        ⟨.eof, (Segment.place lx.file.id lx.cursor.pos lx.cursor.rest .eof).span⟩),
        lx.past (.place lx.file.id lx.cursor.pos lx.cursor.rest .eof) []) := by
  have hrest : lx.cursor.rest = lx.cursor.rest ++ (Lexeme.spelling .eof ++ []) := by
    rw [Lexeme.spelling, List.append_nil, List.append_nil]
  have htoken : (Segment.place lx.file.id lx.cursor.pos lx.cursor.rest .eof).token? lx.symbols =
      some .eof := rfl
  exact runFrom_of_eof (nextSpanned_eq_ok hrest hg .eof htoken) rfl tokens

/-- A segment that is not rejected adds its token to any run. -/
theorem runFrom_of_token {gap rest : List Char} {l : Lexeme} {token : Token}
    (h : lx.cursor.rest = gap ++ (l.spelling ++ rest)) (hg : IsTrivia gap (l.spelling ++ rest))
    (hl : l.FollowedBy rest) (hne : l ≠ .eof)
    (ht : (Segment.place lx.file.id lx.cursor.pos gap l).token? lx.symbols = some token)
    (policy : RecoveryPolicy) (tokens : Array SpannedToken) :
    lx.runFrom policy tokens =
      (lx.past (.place lx.file.id lx.cursor.pos gap l) rest).runFrom policy
        (tokens.push ⟨token, (Segment.place lx.file.id lx.cursor.pos gap l).span⟩) := by
  refine runFrom_of_ok (nextSpanned_eq_ok h hg hl ht) ?_ tokens
  rintro rfl
  exact hne ((token?_eq_eof_iff _ _).1 ht)

/-! ## Whole runs -/

theorem runFrom_skipLine (h : Segmented file p text segments) (hf : lx.file.id = file)
    (hp : lx.cursor.pos = p) (hr : lx.cursor.rest = text) (tokens : Array SpannedToken) :
    ∃ lx', lx.runFrom .skipLine tokens =
        (.ok (tokens ++ (tokensOf lx.symbols segments).toArray), lx') ∧
      lx'.symbols = symbolsAfter lx.symbols segments ∧
      lx'.log = lx.log.emitAll (diagnosticsOf lx.options segments) := by
  induction h generalizing lx tokens with
  | eof hg =>
    subst hf hp hr
    refine ⟨_, runFrom_of_isTrivia _ hg tokens, rfl, ?_⟩
    simp [past, diagnosticsOf]
  | @cons p text gap rest l segments ht hg hl hne h ih =>
    subst hf hp
    rw [ht] at hr
    cases htoken : (Segment.place lx.file.id lx.cursor.pos gap l).token? lx.symbols with
    | some token =>
      have hstep := runFrom_of_token hr hg hl hne htoken .skipLine tokens
      obtain ⟨lx', hrun, hsymbols, hlog⟩ := @ih (lx.past (.place _ lx.cursor.pos gap l) rest)
        rfl rfl rfl (tokens.push ⟨token, (Segment.place lx.file.id lx.cursor.pos gap l).span⟩)
      refine ⟨lx', ?_, hsymbols, ?_⟩
      · rw [hstep, hrun, tokensOf, htoken]
        simp [past]
      · rw [hlog, diagnosticsOf_cons, DiagnosticLog.emitAll_append]
        rfl
    | none =>
      obtain ⟨head, c, tail, hs⟩ := exists_eq_rejected ((token?_eq_none_iff _ _).1 htoken)
      have hstep := runFrom_skipLine_of_rejected hr hg hl hs tokens
      obtain ⟨lx', hrun, hsymbols, hlog⟩ :=
        @ih { lx.past (.place _ lx.cursor.pos gap l) rest with finished := false } rfl rfl rfl
          tokens
      refine ⟨lx', ?_, hsymbols, ?_⟩
      · rw [hstep, hrun, tokensOf, htoken]
        simp [past]
      · rw [hlog, diagnosticsOf_cons, DiagnosticLog.emitAll_append]
        rfl

/-- Without a rejected segment the policy makes no difference. -/
theorem runFrom_abort_eq (h : Segmented file p text segments) (hf : lx.file.id = file)
    (hp : lx.cursor.pos = p) (hr : lx.cursor.rest = text)
    (hs : ∀ s ∈ segments, s.lexeme.isRejected = false) (tokens : Array SpannedToken) :
    lx.runFrom .abort tokens = lx.runFrom .skipLine tokens := by
  induction h generalizing lx tokens with
  | eof hg =>
    subst hf hp hr
    rw [runFrom_of_isTrivia _ hg, runFrom_of_isTrivia _ hg]
  | @cons p text gap rest l segments ht hg hl hne h ih =>
    subst hf hp
    rw [ht] at hr
    rw [List.forall_mem_cons] at hs
    obtain ⟨token, htoken⟩ := exists_token?_of_not_isRejected lx.symbols hs.1
    rw [runFrom_of_token hr hg hl hne htoken, runFrom_of_token hr hg hl hne htoken]
    exact @ih (lx.past (.place _ lx.cursor.pos gap l) rest) rfl rfl rfl hs.2 _

/-- The first rejected segment ends a run that aborts. -/
theorem runFrom_abort_eq_error {before after : List Segment} {s : Segment}
    {head tail : List Char} {c : Char}
    (h : Segmented file p text (before ++ s :: after)) (hf : lx.file.id = file)
    (hp : lx.cursor.pos = p) (hr : lx.cursor.rest = text)
    (hbefore : ∀ s ∈ before, s.lexeme.isRejected = false)
    (hs : s.lexeme = .rejected head c tail) (tokens : Array SpannedToken) :
    ∃ lx', lx.runFrom .abort tokens = (.error ⟨lx.file.name, c, s.charSpan head c⟩, lx') ∧
      lx'.log = lx.log.emitAll (diagnosticsOf lx.options before) := by
  induction before generalizing lx tokens p text with
  | nil =>
    rw [List.nil_append] at h
    cases h with
    | eof hg => cases hs
    | @cons _ _ gap rest l _ ht hg hl hne h =>
      subst hf hp
      rw [ht] at hr
      refine ⟨_, runFrom_abort_of_error (nextSpanned_eq_error hr hg hl hs) tokens, ?_⟩
      exact (DiagnosticLog.emitAll_nil _).symm
  | cons s' before ih =>
    rw [List.cons_append] at h
    generalize hmore : before ++ s :: after = more at h
    rw [List.forall_mem_cons] at hbefore
    cases h with
    | eof hg => exact absurd hmore (by simp)
    | @cons _ _ gap rest l _ ht hg hl hne h =>
      subst hf hp hmore
      rw [ht] at hr
      obtain ⟨token, htoken⟩ := exists_token?_of_not_isRejected lx.symbols hbefore.1
      have hstep := runFrom_of_token hr hg hl hne htoken .abort tokens
      obtain ⟨lx', hrun, hlog⟩ := @ih _ _ (lx.past (.place _ lx.cursor.pos gap l) rest) h rfl rfl
        rfl hbefore.2 (tokens.push ⟨token, (Segment.place lx.file.id lx.cursor.pos gap l).span⟩)
      refine ⟨lx', ?_, ?_⟩
      · rw [hstep, hrun]
        rfl
      · rw [hlog, diagnosticsOf_cons, DiagnosticLog.emitAll_append]
        rfl

end Lexer

/-! ## Whole files -/

/-- The byte order mark of a text that begins with one. -/
def byteOrderMark (text : List Char) : List Char :=
  if text.head? = some '\uFEFF' then ['\uFEFF'] else []

/-- A text without its byte order mark. -/
def withoutMark (text : List Char) : List Char :=
  if text.head? = some '\uFEFF' then text.tail else text

theorem byteOrderMark_append (text : List Char) :
    byteOrderMark text ++ withoutMark text = text := by
  unfold byteOrderMark withoutMark
  split_ifs with h
  · obtain ⟨rest, rfl⟩ := List.head?_eq_some_iff.1 h
    rfl
  · rfl

theorem newline_notMem_byteOrderMark (text : List Char) : '\n' ∉ byteOrderMark text := by
  unfold byteOrderMark
  split_ifs
  · decide
  · exact List.not_mem_nil

theorem Lexer.cursor_ofFile (file : SourceFile) (options : LexOptions) (symbols : SymbolTable)
    (log : DiagnosticLog) :
    (Lexer.ofFile file options symbols log).cursor =
      (Cursor.ofText file.text).moveOver (byteOrderMark file.text) (withoutMark file.text) := by
  have hcur : (Cursor.ofText file.text).current? = file.text.head? := rfl
  unfold ofFile byteOrderMark withoutMark Cursor.eat
  simp only [hcur]
  by_cases h : file.text.head? = some '\uFEFF'
  · obtain ⟨rest, hr⟩ := List.head?_eq_some_iff.1 h
    rw [if_pos h, if_pos h, if_pos h, hr]
    rfl
  · rw [if_neg h, if_neg h, if_neg h]
    rfl

theorem Lexer.remaining_ofFile_le (file : SourceFile) (options : LexOptions)
    (symbols : SymbolTable) (log : DiagnosticLog) :
    (Lexer.ofFile file options symbols log).remaining ≤ file.text.length := by
  rw [remaining, cursor_ofFile, Cursor.rest_moveOver]
  conv_rhs => rw [← byteOrderMark_append file.text, List.length_append]
  exact Nat.le_add_left _ _

/-- The segments of a file, behind its byte order mark. -/
def SegmentsOf (file : SourceFile) (segments : List Segment) : Prop :=
  Segmented file.id (Position.start.advanceOver (byteOrderMark file.text)) (withoutMark file.text)
    segments

theorem exists_segmentsOf (file : SourceFile) : ∃ segments, SegmentsOf file segments :=
  exists_segmented _ _ _

/-- A segment stands where its span says. -/
theorem SegmentsOf.exists_of_mem {file : SourceFile} {segments : List Segment} {s : Segment}
    (h : SegmentsOf file segments) (hs : s ∈ segments) :
    ∃ before after, file.text = before ++ s.lexeme.spelling ++ after ∧
      s.span = ⟨Position.start.advanceOver before,
        Position.start.advanceOver (before ++ s.lexeme.spelling), file.id⟩ ∧
      s.lexeme.FollowedBy after := by
  obtain ⟨front, back, rfl⟩ := List.append_of_mem hs
  obtain ⟨rest, hrest, hsegments⟩ := h.exists_of_append (List.cons_ne_nil _ _)
  have hmark := byteOrderMark_append file.text
  rw [← Position.advanceOver_append] at hsegments
  generalize hbefore : byteOrderMark file.text ++ front.flatMap Segment.text = before at hsegments
  have htext : file.text = before ++ rest := by
    rw [← hbefore, List.append_assoc, ← hrest, hmark]
  cases hsegments with
  | eof hg =>
    refine ⟨before ++ rest, [], ?_, ?_, .eof⟩
    · simp [htext, Segment.place, Lexeme.spelling]
    · simp [Segment.place, Lexeme.spelling, Position.advanceOver_append]
  | @cons _ _ gap after l _ ht hg hl hne hback =>
    refine ⟨before ++ gap, after, ?_, ?_, hl⟩
    · simp [htext, ht, Segment.place]
    · simp [Segment.place, Position.advanceOver_append]

theorem SegmentsOf.snippet {file : SourceFile} {segments : List Segment} {s : Segment}
    (h : SegmentsOf file segments) (hs : s ∈ segments) :
    file.snippet s.span = .ok s.lexeme.spelling := by
  obtain ⟨before, after, htext, hspan, -⟩ := h.exists_of_mem hs
  refine file.snippet_eq_ok htext ?_ ?_
  · rw [hspan, Position.offset_advanceOver_start]
  · rw [hspan, Position.offset_advanceOver_start]

/-- The span of a rejected character covers it. -/
theorem SegmentsOf.exists_spanOf_charSpan {file : SourceFile} {segments : List Segment}
    {s : Segment} {head tail : List Char} {c : Char} (h : SegmentsOf file segments)
    (hs : s ∈ segments) (hl : s.lexeme = .rejected head c tail) :
    ∃ before after, file.SpanOf (before ++ head) [c] (s.charSpan head c) ∧
      (Lexeme.rejected head c tail).FollowedBy after := by
  obtain ⟨before, after, htext, hspan, hfollowed⟩ := h.exists_of_mem hs
  rw [hl] at htext hfollowed
  have htext' : file.text = (before ++ head) ++ [c] ++ (tail ++ after) := by
    simp [htext, Lexeme.spelling]
  have hpart := file.spanOf_advanceOver htext'
  rw [List.append_assoc, Position.advanceOver_append, Position.advanceOver_append _ before]
    at hpart
  refine ⟨before, after, ?_, hfollowed⟩
  simpa only [charSpan, hspan] using hpart

section Tokenize

variable {file : SourceFile} {segments : List Segment} (options : LexOptions)
  (symbols : SymbolTable) (log : DiagnosticLog)

theorem tokenize_skipLine (h : SegmentsOf file segments) :
    ∃ lx, tokenize file options .skipLine symbols log =
        (.ok (tokensOf symbols segments).toArray, lx) ∧
      lx.symbols = symbolsAfter symbols segments ∧
      lx.log = log.emitAll (diagnosticsOf options segments) := by
  have hcur := Lexer.cursor_ofFile file options symbols log
  obtain ⟨lx, hrun, hsymbols, hlog⟩ := @Lexer.runFrom_skipLine _ _ _ _
    (.ofFile file options symbols log) h rfl (by rw [hcur]; rfl) (by rw [hcur]; rfl) #[]
  refine ⟨lx, ?_, hsymbols, hlog⟩
  rw [tokenize, Lexer.run, hrun, Array.empty_append]
  rfl

/-- Where no segment is rejected, both policies do the same. -/
theorem tokenize_abort_eq (h : SegmentsOf file segments)
    (hs : ∀ s ∈ segments, s.lexeme.isRejected = false) :
    tokenize file options .abort symbols log = tokenize file options .skipLine symbols log := by
  have hcur := Lexer.cursor_ofFile file options symbols log
  exact @Lexer.runFrom_abort_eq _ _ _ _ (.ofFile file options symbols log) h rfl
    (by rw [hcur]; rfl) (by rw [hcur]; rfl) hs #[]

theorem tokenize_abort_eq_error {before after : List Segment} {s : Segment}
    {head tail : List Char} {c : Char} (h : SegmentsOf file (before ++ s :: after))
    (hbefore : ∀ s ∈ before, s.lexeme.isRejected = false)
    (hs : s.lexeme = .rejected head c tail) :
    ∃ lx, tokenize file options .abort symbols log =
        (.error ⟨file.name, c, s.charSpan head c⟩, lx) ∧
      lx.log = log.emitAll (diagnosticsOf options before) := by
  have hcur := Lexer.cursor_ofFile file options symbols log
  exact @Lexer.runFrom_abort_eq_error _ _ _ (.ofFile file options symbols log) _ _ _ _ _ _ h rfl
    (by rw [hcur]; rfl) (by rw [hcur]; rfl) hbefore hs #[]

variable {options symbols log}

/-- Tokens come from segments, and with the policy that aborts none of these is rejected. -/
theorem exists_of_tokenize_eq_ok {policy : RecoveryPolicy} {tokens : Array SpannedToken}
    {lx : Lexer} (h : tokenize file options policy symbols log = (.ok tokens, lx)) :
    ∃ segments, SegmentsOf file segments ∧
      (policy = .abort → ∀ s ∈ segments, s.lexeme.isRejected = false) ∧
      tokens.toList = tokensOf symbols segments ∧ lx.symbols = symbolsAfter symbols segments ∧
      lx.log = log.emitAll (diagnosticsOf options segments) := by
  obtain ⟨segments, hsegments⟩ := exists_segmentsOf file
  obtain ⟨lx', hskip, hsymbols, hlog⟩ := tokenize_skipLine options symbols log hsegments
  cases policy with
  | skipLine =>
    rw [h] at hskip
    cases hskip
    exact ⟨segments, hsegments, nofun, rfl, hsymbols, hlog⟩
  | abort =>
    rcases forall_or_exists_rejected segments with
      hs | ⟨before, s, after, head, c, tail, rfl, hbefore, hs⟩
    · rw [← tokenize_abort_eq options symbols log hsegments hs, h] at hskip
      cases hskip
      exact ⟨segments, hsegments, fun _ => hs, rfl, hsymbols, hlog⟩
    · obtain ⟨lx'', herror, -⟩ :=
        tokenize_abort_eq_error options symbols log hsegments hbefore hs
      rw [h] at herror
      cases herror

variable (policy : RecoveryPolicy)

/-- Whether a run fails depends on the text and the policy alone.  It returns the tokens of all
segments, or fails behind some of them. -/
theorem SegmentsOf.tokenize_cases (h : SegmentsOf file segments) :
    (∀ (options : LexOptions) (symbols : SymbolTable) (log : DiagnosticLog),
      ∃ lx, tokenize file options policy symbols log =
          (.ok (tokensOf symbols segments).toArray, lx) ∧
        lx.symbols = symbolsAfter symbols segments ∧
        lx.log = log.emitAll (diagnosticsOf options segments)) ∨
    ∃ (before : List Segment) (c : Char) (span : Span),
      ∀ (options : LexOptions) (symbols : SymbolTable) (log : DiagnosticLog),
        ∃ lx, tokenize file options policy symbols log = (.error ⟨file.name, c, span⟩, lx) ∧
          lx.log = log.emitAll (diagnosticsOf options before) := by
  cases policy with
  | skipLine => exact .inl fun options symbols log => tokenize_skipLine options symbols log h
  | abort =>
    rcases forall_or_exists_rejected segments with
      hs | ⟨before, s, after, head, c, tail, rfl, hbefore, hs⟩
    · refine .inl fun options symbols log => ?_
      rw [tokenize_abort_eq options symbols log h hs]
      exact tokenize_skipLine options symbols log h
    · exact .inr ⟨before, c, s.charSpan head c, fun options symbols log =>
        tokenize_abort_eq_error options symbols log h hbefore hs⟩

end Tokenize

end Lexicon
