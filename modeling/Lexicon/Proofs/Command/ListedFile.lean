import Lexicon.Command.ListTokens
import Lexicon.Proofs.Lexer.Excerpts
import Lexicon.Proofs.Lexer.Independence

/-!
# What the listing of a file shows

The lines that list a file, and the diagnostics shown about it, do not depend on its number, on the
files that were read before it or on the names that were interned before it (`listedAlike_lex`,
`map_render_addFile`).
-/

namespace Lexicon

open Source

/-! ## Tokens -/

/-- The token `t` of a file and the token `t'` of the file with another number are listed alike. -/
structure TokensAlike (file file' : SourceFile) (symbols symbols' : SymbolTable)
    (t t' : SpannedToken) : Prop where
  eof_iff : t'.token = .eof ↔ t.token = .eof
  kind_eq : t'.token.kind = t.token.kind
  text_eq : t'.token.text symbols' = t.token.text symbols
  spelling_eq : sourceSpelling? file' symbols' t' = sourceSpelling? file symbols t
  lo_eq : t'.span.lo = t.span.lo
  hi_eq : t'.span.hi = t.span.hi

section Tokens

variable {file file' : SourceFile} {symbols symbols' : SymbolTable}

/-- Other tokens than identifiers are the same if they are by name. -/
theorem token_eq_of_named_eq {id : FileId} {t t' : Token} (ht : t.isIdent = false)
    (h : t'.named symbols' = (t.named symbols).moveTo id 0 0) : t' = t := by
  cases t with
  | ident => cases ht
  | number | newline | punct | invalid | eof =>
    cases t' <;> cases h
    rfl

/-- Tokens that are the same by name are listed alike. -/
theorem tokensAlike_of_named_eq {id : FileId} {t t' : SpannedToken}
    (hfile : file' = { file with id })
    (h : t'.named symbols' =
      ((t.named symbols).1.moveTo id 0 0, (t.named symbols).2.moveTo id 0 0)) :
    TokensAlike file file' symbols symbols' t t' := by
  subst hfile
  obtain ⟨token, span⟩ := t
  obtain ⟨token', span'⟩ := t'
  have htoken : token'.named symbols' = (token.named symbols).moveTo id 0 0 := congrArg Prod.fst h
  have hspan : span' = span.moveTo id 0 0 := congrArg Prod.snd h
  subst hspan
  cases token with
  | ident ident =>
    cases token' with
    | ident ident' =>
      have hname : symbols'.textOf ident'.name = symbols.textOf ident.name :=
        (NamedToken.ident.inj htoken).1
      refine ⟨by simp, rfl, hname, ?_, rfl, rfl⟩
      simp only [sourceSpelling?, hname]
      rfl
    | number | newline | punct | invalid | eof => cases htoken
  | number | newline | punct | invalid | eof =>
    -- Other tokens do not mention the table, so the names tell that they are equal.
    obtain rfl := token_eq_of_named_eq rfl htoken
    exact ⟨Iff.rfl, rfl, rfl, rfl, rfl, rfl⟩

theorem TokensAlike.tokenLine_eq {t t' : SpannedToken}
    (h : TokensAlike file file' symbols symbols' t t') (showSpans : Bool) :
    tokenLine showSpans file' symbols' t' = tokenLine showSpans file symbols t := by
  rw [tokenLine, tokenLine, tokenFields, tokenFields, h.kind_eq, h.text_eq, h.spelling_eq, h.lo_eq]

theorem TokensAlike.record_eq {t t' : SpannedToken}
    (h : TokensAlike file file' symbols symbols' t t') :
    TokenRecord.of file' symbols' t' = TokenRecord.of file symbols t := by
  rw [TokenRecord.of, TokenRecord.of, h.kind_eq, h.text_eq, h.spelling_eq, h.lo_eq, h.hi_eq]

variable {tokens tokens' : List SpannedToken}

theorem tokenListing_eq (h : List.Forall₂ (TokensAlike file file' symbols symbols') tokens tokens')
    (showSpans : Bool) :
    tokenListing showSpans file' symbols' tokens' = tokenListing showSpans file symbols tokens := by
  unfold tokenListing
  induction h with
  | nil => rfl
  | @cons t t' _ _ hs _ ih =>
    rw [List.filter_cons, List.filter_cons]
    simp only [ne_eq, decide_eq_true_eq, hs.eof_iff]
    split_ifs
    · exact ih
    · rw [List.map_cons, List.map_cons, hs.tokenLine_eq, ih]

theorem map_record_eq (h : List.Forall₂ (TokensAlike file file' symbols symbols') tokens tokens') :
    tokens'.map (TokenRecord.of file' symbols') = tokens.map (TokenRecord.of file symbols) := by
  induction h with
  | nil => rfl
  | cons hs _ ih => rw [List.map_cons, List.map_cons, hs.record_eq, ih]

/-- Tokens that are the same by name are listed alike. -/
theorem SameTokens.forall₂_tokensAlike {id : FileId} (hfile : file' = { file with id })
    (h : SameTokens id symbols symbols' tokens tokens') :
    List.Forall₂ (TokensAlike file file' symbols symbols') tokens tokens' := by
  have hnamed : List.Forall₂ (· = ·) (moveTokensTo id 0 0 (tokens.map (·.named symbols)))
      (tokens'.map (·.named symbols')) := by
    rw [h.named_eq]
    exact List.forall₂_same.2 fun _ _ => rfl
  rw [moveTokensTo, List.map_map, List.forall₂_map_left_iff, List.forall₂_map_right_iff] at hnamed
  exact hnamed.imp fun t t' heq => tokensAlike_of_named_eq hfile heq.symm

end Tokens

/-! ## Lexed files -/

/-- A lexed file is listed like another, which has the number `id`. -/
structure ListedAlike (id : FileId) (a b : LexedFile) : Prop where
  diagnostics_eq : b.diagnostics = moveReportsTo id 0 0 a.diagnostics
  lines_eq : ∀ options : ListingOptions, options.lines b = options.lines a
  result :
    (∃ tokens tokens', a.result = .ok tokens ∧ b.result = .ok tokens') ∨
    ∃ e e', a.result = .error e ∧ b.result = .error e' ∧ e'.message = e.message

theorem ListedAlike.count_eq {id : FileId} {a b : LexedFile} (h : ListedAlike id a b)
    (level : Level) : b.count level = a.count level := by
  rw [LexedFile.count, LexedFile.count, h.diagnostics_eq, moveReportsTo, List.countP_map]
  rfl

theorem map_diagnosticRecord_moveReportsTo (id : FileId) (reports : List Diagnostic) :
    (moveReportsTo id 0 0 reports).map DiagnosticRecord.of = reports.map DiagnosticRecord.of := by
  rw [moveReportsTo, List.map_map]
  rfl

/-- Runs with the same outcome leave lexed files that are listed alike. -/
theorem SameOutcome.listedAlike {id : FileId} {file file' : SourceFile}
    {run run' : Except LexError (Array SpannedToken) × Lexer} (hfile : file' = { file with id })
    (h : SameOutcome id {} {} run run') :
    ListedAlike id ⟨file, run.1, run.2.symbols, run.2.log.entries.toList⟩
      ⟨file', run'.1, run'.2.symbols, run'.2.log.entries.toList⟩ := by
  obtain ⟨reports, hlog, hlog'⟩ := h.reports
  have hentries : run.2.log.entries.toList = reports := by
    rw [hlog, DiagnosticLog.toList_entries_emitAll]
    rfl
  have hentries' : run'.2.log.entries.toList = moveReportsTo id 0 0 reports := by
    rw [hlog', DiagnosticLog.toList_entries_emitAll]
    rfl
  have hname : file'.name = file.name := by rw [hfile]
  have hrecords := map_diagnosticRecord_moveReportsTo id reports
  rw [hentries, hentries']
  rcases h.result with ⟨tokens, tokens', hok, hok', hsame⟩ | ⟨e, herror, herror'⟩
  · have halike := hsame.forall₂_tokensAlike hfile
    rw [hok, hok']
    refine ⟨rfl, fun options => ?_, .inl ⟨tokens, tokens', rfl, rfl⟩⟩
    unfold ListingOptions.lines
    cases options.format with
    | text => exact tokenListing_eq halike _
    | json => simp only [FileRecord.of, map_record_eq halike, hrecords, hname]
  · rw [herror, herror']
    refine ⟨rfl, fun options => ?_, .inr ⟨e, _, rfl, rfl, rfl⟩⟩
    unfold ListingOptions.lines
    cases options.format with
    | text => rfl
    | json =>
      simp only [FileRecord.of, hrecords, hname]
      rfl

/-- A run does not depend on the number of the file, nor on what was interned before. -/
theorem sameOutcome_tokenize (file : SourceFile) (id : FileId) (options : LexOptions)
    (policy : RecoveryPolicy) (symbols symbols' : SymbolTable) (log log' : DiagnosticLog) :
    SameOutcome id log log' (tokenize file options policy symbols log)
      (tokenize { file with id } options policy symbols' log') := by
  obtain ⟨segments, h⟩ := exists_segmentsOf file
  have htext : ({ file with id } : SourceFile).text = file.text := rfl
  cases policy with
  | skipLine => exact sameOutcome_skipLine options symbols symbols' log log' h htext
  | abort => exact sameOutcome_abort options symbols symbols' log log' h htext rfl

theorem listedAlike_lex (lexing : Lexing) (file : SourceFile) (id : FileId)
    (symbols symbols' : SymbolTable) :
    ListedAlike id (lexing.lex file symbols) (lexing.lex { file with id } symbols') := by
  have hsame :=
    sameOutcome_tokenize file id lexing.options lexing.policy symbols symbols' {} {}
  exact hsame.listedAlike rfl

/-! ## Rendered diagnostics -/

section Rendering

variable {m m' : SourceMap} {file : SourceFile} {id : FileId}

/-- The excerpt of a span does not show the number of its file, nor the other files of the map. -/
theorem formatSpan_moveTo {span : Span} (hfile : m.get? span.file = some file)
    (hfile' : m'.get? id = some { file with id }) :
    m'.formatSpan (span.moveTo id 0 0) = m.formatSpan span := by
  have hget : m.getFile span.file = .ok file := by rw [SourceMap.getFile, hfile]
  have hget' : m'.getFile (span.moveTo id 0 0).file = .ok { file with id } := by
    rw [SourceMap.getFile, Span.moveTo, hfile']
  rw [SourceMap.formatSpan, SourceMap.formatSpan, hget, hget']
  rfl

theorem render_moveTo {d : Diagnostic} (hfile : m.get? d.span.file = some file)
    (hfile' : m'.get? id = some { file with id }) :
    { d with span := d.span.moveTo id 0 0 }.render m' = d.render m := by
  simp only [Diagnostic.render, formatSpan_moveTo hfile hfile']
  rfl

theorem file_of_mem_diagnostics (lexing : Lexing) (file : SourceFile) (symbols : SymbolTable)
    {d : Diagnostic} (hd : d ∈ (lexing.lex file symbols).diagnostics) : d.span.file = file.id := by
  obtain ⟨reports, hlog, hreports⟩ :=
    exists_reports_isPartOfLine file lexing.options lexing.policy symbols {}
  have hentries : (lexing.lex file symbols).diagnostics = reports := by
    rw [show (lexing.lex file symbols).diagnostics = _ from congrArg (·.entries.toList) hlog,
      DiagnosticLog.toList_entries_emitAll]
    rfl
  rw [hentries] at hd
  obtain ⟨front, part, back, -, -, -, hspan⟩ := hreports d (List.mem_append_left _ hd)
  rw [hspan]

end Rendering

/-- In any map a file is listed like the only file of one. -/
theorem listedAlike_addFile (lexing : Lexing) (map : SourceMap) (path : String)
    (text : List Char) (symbols : SymbolTable) :
    ListedAlike map.files.size (lexing.lex (SourceMap.addFile {} path text).1 {})
      (lexing.lex (map.addFile path text).1 symbols) :=
  listedAlike_lex lexing (SourceMap.addFile {} path text).1 map.files.size {} symbols

theorem map_render_addFile (lexing : Lexing) (map : SourceMap) (path : String)
    (text : List Char) (symbols : SymbolTable) :
    (lexing.lex (map.addFile path text).1 symbols).diagnostics.map
        (·.render (map.addFile path text).2) =
      (lexing.lex (SourceMap.addFile {} path text).1 {}).diagnostics.map
        (·.render (SourceMap.addFile {} path text).2) := by
  rw [(listedAlike_addFile lexing map path text symbols).diagnostics_eq, moveReportsTo,
    List.map_map]
  refine List.map_congr_left fun d hd => ?_
  have hget : (SourceMap.addFile {} path text).2.get? d.span.file =
      some (SourceMap.addFile {} path text).1 := by
    rw [file_of_mem_diagnostics lexing _ _ hd]
    rfl
  exact render_moveTo hget Array.getElem?_push_size

end Lexicon
