import Lexicon.Lexer.Recovery
import Lexicon.Proofs.Lexer.Segment
import Lexicon.Proofs.Source.Cursor

/-!
# Reading segments

What the lexer makes of a text is read off its segments: each yields a token, if it is not rejected
(`Segment.token?`), a symbol, if it is an identifier (`Segment.internIn`), and diagnostics
(`Segment.diagnostics`).  One step of the lexer reads one segment (`nextToken_eq_ok`,
`nextToken_eq_error`, and `nextSpanned_eq_ok`, `nextSpanned_eq_error` with the span).
-/

namespace Lexicon

open Source Text Unicode

namespace Source.Cursor

theorem eatWhile_eq_moveOver {cur : Cursor} {p : Char → Bool} {run rest : List Char}
    (h : cur.rest = run ++ rest) (hrun : ∀ c ∈ run, p c) (hr : ∀ c ∈ rest.head?, p c = false) :
    cur.eatWhile p = cur.moveOver run rest := by
  rw [eatWhile, h, takeWhile_append_of_stop hrun hr, dropWhile_append_of_stop hrun hr]

end Source.Cursor

namespace DiagnosticLog

/-- Reports diagnostics in turn. -/
def emitAll (log : DiagnosticLog) (ds : List Diagnostic) : DiagnosticLog :=
  ⟨log.entries ++ ds.toArray⟩

theorem emitAll_nil (log : DiagnosticLog) : log.emitAll [] = log := by simp [emitAll]

theorem emitAll_singleton (log : DiagnosticLog) (d : Diagnostic) :
    log.emitAll [d] = log.emit d := by
  simp [emitAll, emit]

theorem emitAll_append (log : DiagnosticLog) (a b : List Diagnostic) :
    log.emitAll (a ++ b) = (log.emitAll a).emitAll b := by
  simp [emitAll]

theorem toList_entries_emitAll (log : DiagnosticLog) (ds : List Diagnostic) :
    (log.emitAll ds).entries.toList = log.entries.toList ++ ds := by
  simp [emitAll]

end DiagnosticLog

/-- The name that an identifier has by its spelling. -/
def nameOf (raw : List Char) : String := String.ofList (normalize raw)

/-- The diagnostic about the character `c` that an identifier cannot go on with. -/
def Diagnostic.invalidChar (c : Char) (span : Span) : Diagnostic where
  level := .error
  message := LexError.summary
  span
  code := some .invalidIdentChar
  notes := [codePointName c ++ " cannot appear in an identifier"]

/-- Whether a diagnostic is about such a character. -/
def Diagnostic.isRejection (d : Diagnostic) : Bool := d.code = some .invalidIdentChar

theorem LexError.toDiagnostic_eq (e : LexError) :
    e.toDiagnostic = .invalidChar e.offending e.span := rfl

namespace Segment

/-- The span of the character `c` behind `head`, where the spelling begins with both. -/
def charSpan (s : Segment) (head : List Char) (c : Char) : Span :=
  ⟨s.span.lo.advanceOver head, s.span.lo.advanceOver (head ++ [c]), s.span.file⟩

/-- The token that a segment yields. -/
def token? (symbols : SymbolTable) (s : Segment) : Option Token :=
  match s.lexeme with
  | .ident raw => some (.ident ⟨(symbols.intern (nameOf raw)).1, s.span⟩)
  | .number literal => some (.number ((Numeral.value? literal).getD Numeral.largest))
  | .newline => some .newline
  | .punct mark => some (.punct mark)
  | .invalid c => some (.invalid c)
  | .eof => some .eof
  | .rejected _ _ _ => none

/-- The symbols after a segment. -/
def internIn (symbols : SymbolTable) (s : Segment) : SymbolTable :=
  match s.lexeme with
  | .ident raw => (symbols.intern (nameOf raw)).2
  | _ => symbols

/-- What is reported about a segment. -/
def diagnostics (options : LexOptions) (s : Segment) : List Diagnostic :=
  match s.lexeme with
  | .ident raw =>
    if options.warnNormalized && (normalForm? raw).isSome then
      [{ level := .warning
         message := s!"identifier `{String.ofList raw}` is normalized to `{nameOf raw}`"
         span := s.span
         code := some .identNormalized }]
    else []
  | .number literal =>
    if Numeral.value? literal = none then
      [{ level := .error
         message := s!"integer literal `{String.ofList literal}` is too large"
         span := s.span
         code := some .numberTooLarge }]
    else []
  | .invalid c =>
    [{ level := .error
       message := s!"unexpected character `{shownChar c}`"
       span := s.span
       code := some .unexpectedChar }]
  | .rejected head c _ => [.invalidChar c (s.charSpan head c)]
  | .newline | .punct _ | .eof => []

/-- What is reported about a rejected segment. -/
def rejection? (s : Segment) : Option Diagnostic :=
  match s.lexeme with
  | .rejected head c _ => some (.invalidChar c (s.charSpan head c))
  | _ => none

/-- Rejections are reported about rejected segments only, one about each. -/
theorem filter_isRejection_diagnostics (options : LexOptions) (s : Segment) :
    (s.diagnostics options).filter Diagnostic.isRejection = s.rejection?.toList := by
  unfold diagnostics rejection?
  cases s.lexeme with
  | ident raw =>
    simp only
    split_ifs <;> rfl
  | number literal =>
    simp only
    split_ifs <;> rfl
  | newline | punct | invalid | eof | rejected => rfl

theorem rejection?_eq_none_iff (s : Segment) :
    s.rejection? = none ↔ s.lexeme.isRejected = false := by
  cases hs : s.lexeme <;> simp [rejection?, Lexeme.isRejected, hs]

end Segment

namespace Lexer

variable {lx : Lexer} {s : Segment} {rest : List Char}

/-- The lexer behind the lexeme of `s`, at which it stood. -/
def pastLexeme (lx : Lexer) (s : Segment) (rest : List Char) : Lexer :=
  { lx with
    cursor := lx.cursor.moveOver s.lexeme.spelling rest
    symbols := s.internIn lx.symbols
    log := lx.log.emitAll (s.diagnostics lx.options) }

/-- The lexer behind the segment `s`. -/
def past (lx : Lexer) (s : Segment) (rest : List Char) : Lexer :=
  { lx with
    cursor := lx.cursor.moveOver s.text rest
    tokenStart := s.span.lo
    symbols := s.internIn lx.symbols
    log := lx.log.emitAll (s.diagnostics lx.options) }

theorem skipTrivia_eq {gap : List Char} (h : lx.cursor.rest = gap ++ rest)
    (hg : IsTrivia gap rest) (hr : AtLexeme rest) :
    lx.skipTrivia = { lx with cursor := lx.cursor.moveOver gap rest } := by
  cases hg with
  | blanks hb =>
    have heat : lx.cursor.eatWhile isBlank = lx.cursor.moveOver gap rest :=
      Cursor.eatWhile_eq_moveOver h hb fun c hc => (hr c hc).1
    have hhash : rest.head? ≠ some '#' := fun hc => (hr _ hc).2 rfl
    simp only [skipTrivia, heat, Cursor.current?, Cursor.rest_moveOver, hhash, if_false]
  | @comment blanks body _ hb hbody hend =>
    rw [List.append_assoc, List.cons_append] at h
    have heat : lx.cursor.eatWhile isBlank = lx.cursor.moveOver blanks ('#' :: (body ++ rest)) := by
      refine Cursor.eatWhile_eq_moveOver h hb ?_
      rintro _ ⟨⟩
      decide
    have hline : (lx.cursor.moveOver blanks ('#' :: (body ++ rest))).eatWhile (· != '\n') =
        (lx.cursor.moveOver blanks ('#' :: (body ++ rest))).moveOver ('#' :: body) rest := by
      refine Cursor.eatWhile_eq_moveOver rfl (fun c hc => ?_) fun c hc => by simp [hend c hc]
      rcases List.mem_cons.1 hc with rfl | hc
      · decide
      · simpa using fun hn : c = '\n' => hbody (hn ▸ hc)
    simp only [skipTrivia, heat, Cursor.current?, Cursor.rest_moveOver, List.head?_cons, if_true,
      skipComment, hline, Cursor.moveOver_moveOver]

theorem beginToken_eq {gap : List Char} (h : lx.cursor.rest = gap ++ rest)
    (hg : IsTrivia gap rest) (hr : AtLexeme rest) :
    lx.beginToken =
      { lx with
        cursor := lx.cursor.moveOver gap rest
        tokenStart := lx.cursor.pos.advanceOver gap } := by
  rw [beginToken, skipTrivia_eq h hg hr]
  rfl

/-! ## Reading a lexeme -/

theorem readToken_eof (h : lx.cursor.rest = []) : lx.readToken = (.ok .eof, lx) := by
  rw [readToken, Cursor.current?, h]
  rfl

theorem readToken_newline (h : lx.cursor.rest = '\n' :: rest) :
    lx.readToken = (.ok .newline, { lx with cursor := lx.cursor.moveOver ['\n'] rest }) := by
  rw [readToken, Cursor.current?, h]
  simp only [List.head?_cons, if_true, advance, Cursor.advance_eq_moveOver h]

theorem readToken_punct {mark : Punctuation} (h : lx.cursor.rest = mark.char :: rest) :
    lx.readToken =
      (.ok (.punct mark), { lx with cursor := lx.cursor.moveOver [mark.char] rest }) := by
  have hn : mark.char ≠ '\n' := by cases mark <;> decide
  rw [readToken, Cursor.current?, h]
  simp only [List.head?_cons, hn, if_false, Punctuation.ofChar?_char, advance,
    Cursor.advance_eq_moveOver h]

theorem readToken_invalid {c : Char} (h : lx.cursor.rest = c :: rest) (hc : IsStray c) :
    lx.readToken =
      (.ok (.invalid c),
        ({ lx with cursor := lx.cursor.moveOver [c] rest } : Lexer).reportError .unexpectedChar
          s!"unexpected character `{shownChar c}`") := by
  have hstart := isIdentStart_of_isAscii hc.isAscii
  rw [hc.isIdentStart_eq_false] at hstart
  rw [readToken, Cursor.current?, h]
  simp only [List.head?_cons, hc.ne_newline, if_false, hc.ofChar?_eq_none, hc.isDigit_eq_false,
    ← hstart, hc.isAscii, Bool.not_true, Bool.or_false, Bool.false_eq_true, advance,
    Cursor.advance_eq_moveOver h]

theorem ofChar?_eq_none {p : Char → Bool} {c : Char} (hc : p c)
    (hp : ∀ mark : Punctuation, p mark.char = false) : Punctuation.ofChar? c = none := by
  rw [← Option.not_isSome_iff_eq_none]
  intro hmark
  obtain ⟨mark, hmark⟩ := Option.isSome_iff_exists.1 hmark
  obtain rfl := Punctuation.char_of_ofChar? hmark
  rw [hp mark] at hc
  cases hc

/-- The lexer stands at the lexeme of the segment `s`, behind which `rest` follows. -/
structure AtSegment (lx : Lexer) (s : Segment) (rest : List Char) : Prop where
  rest_eq : lx.cursor.rest = s.lexeme.spelling ++ rest
  followedBy : s.lexeme.FollowedBy rest
  span_eq : s.span = ⟨lx.cursor.pos, lx.cursor.pos.advanceOver s.lexeme.spelling, lx.file.id⟩
  tokenStart_eq : lx.tokenStart = lx.cursor.pos

theorem lexNumber_eq {literal : List Char} (h : lx.AtSegment s rest)
    (hs : s.lexeme = .number literal) :
    lx.lexNumber =
      (.number ((Numeral.value? literal).getD Numeral.largest), lx.pastLexeme s rest) := by
  have hrest := h.rest_eq
  have hl := h.followedBy
  have hspan := h.span_eq
  rw [hs] at hrest hl hspan
  cases hl with
  | number hlit hr =>
    have htext : (lx.cursor.moveOver literal rest).textFrom lx.cursor.pos.offset = literal :=
      Cursor.textFrom_moveOver _ _ _
    unfold lexNumber
    rw [hrest, Lexeme.spelling, Numeral.split_append_of_stops hlit hr]
    cases hv : Numeral.value? literal with
    | some value =>
      simp [pastLexeme, hs, hv, Segment.internIn, Segment.diagnostics, DiagnosticLog.emitAll_nil,
        Lexeme.spelling]
    | none =>
      simp [pastLexeme, hs, hv, Segment.internIn, Segment.diagnostics, h.tokenStart_eq, htext,
        reportError, DiagnosticLog.emitAll_singleton, DiagnosticLog.error, tokenSpan,
        Lexeme.spelling, hspan, Cursor.pos_moveOver]

theorem readToken_number {literal : List Char} (h : lx.AtSegment s rest)
    (hs : s.lexeme = .number literal) :
    lx.readToken =
      (.ok (.number ((Numeral.value? literal).getD Numeral.largest)), lx.pastLexeme s rest) := by
  have hrest := h.rest_eq
  have hl := h.followedBy
  rw [hs] at hrest hl
  cases hl with
  | number hlit hr =>
    obtain ⟨c, digits, rfl, hd⟩ := hlit.exists_cons
    have hn : c ≠ '\n' := ne_of_apply_ne hd (by decide)
    have hmark : Punctuation.ofChar? c = none := by
      refine ofChar?_eq_none hd fun mark => ?_
      cases mark <;> decide
    have hcur : lx.cursor.current? = some c := by
      rw [Cursor.current?, hrest]
      rfl
    simp only [readToken, hcur, hn, if_false, hmark, hd, if_true, lexNumber_eq h hs]

/-! ## Reading an identifier -/

theorem nameIdent_eq (lx : Lexer) (raw : List Char) (span : Span) :
    lx.nameIdent raw span =
      (⟨(lx.symbols.intern (nameOf raw)).1, span⟩,
        { lx with
          symbols := (lx.symbols.intern (nameOf raw)).2
          log := lx.log.emitAll (Segment.diagnostics lx.options ⟨[], .ident raw, span⟩) }) := by
  have hname : String.ofList ((normalForm? raw).getD raw) = nameOf raw := rfl
  unfold nameIdent
  simp only [hname, Segment.diagnostics]
  split_ifs
  · simp [DiagnosticLog.warning, DiagnosticLog.emitAll_singleton]
  · simp [DiagnosticLog.emitAll_nil]

theorem readToken_of_isIdentStart {c : Char} (h : lx.cursor.current? = some c)
    (hc : isIdentStart c) : lx.readToken = lx.lexIdent c := by
  have hn : c ≠ '\n' := ne_of_apply_ne hc (by decide)
  have hmark : Punctuation.ofChar? c = none := by
    refine ofChar?_eq_none hc fun mark => ?_
    cases mark <;> decide
  have hd : c.isDigit = false := by
    by_contra hd
    have ha : isAscii c := isAscii_of_isDigit (by simpa using hd)
    rw [isIdentStart_of_isAscii ha, isAsciiIdentStart_of_isDigit (by simpa using hd)] at hc
    cases hc
  have hident : (isAsciiIdentStart c || !isAscii c) = true := by
    cases ha : isAscii c with
    | true => rw [← isIdentStart_of_isAscii ha, hc, Bool.true_or]
    | false => rw [Bool.not_false, Bool.or_true]
  simp only [readToken, h, hn, if_false, hmark, hd, hident, if_true, Bool.false_eq_true]

theorem readToken_of_not_isAscii {c : Char} (h : lx.cursor.current? = some c)
    (hc : isAscii c = false) : lx.readToken = lx.lexIdent c := by
  have hc' : (!isAscii c) = true := by rw [hc, Bool.not_false]
  have hn : c ≠ '\n' := Lexeme.ne_newline_of_not_isAscii hc
  have hmark : Punctuation.ofChar? c = none := by
    refine ofChar?_eq_none (p := fun c => !isAscii c) hc' fun mark => ?_
    cases mark <;> decide
  have hd : c.isDigit = false := by
    by_contra hd
    rw [isAscii_of_isDigit (by simpa using hd)] at hc
    cases hc
  simp only [readToken, h, hn, if_false, hmark, hd, hc', Bool.or_true, if_true,
    Bool.false_eq_true]

theorem lexIdent_eq_ok {c : Char} {raw : List Char} (h : lx.AtSegment s rest)
    (hs : s.lexeme = .ident (c :: raw)) :
    lx.lexIdent c =
      (.ok (.ident ⟨(lx.symbols.intern (nameOf (c :: raw))).1, s.span⟩), lx.pastLexeme s rest) := by
  have hrest := h.rest_eq
  have hl := h.followedBy
  have hspan := h.span_eq
  rw [hs] at hrest hl hspan
  cases hl with
  | ident hraw hr =>
    obtain ⟨_, _, hcons, hc, hcont⟩ := hraw
    obtain ⟨rfl, rfl⟩ := List.cons_eq_cons.1 hcons
    have heat : lx.cursor.advance.eatWhile isIdentContinue =
        lx.cursor.moveOver (c :: raw) rest := by
      rw [Cursor.advance_eq_moveOver hrest,
        Cursor.eatWhile_eq_moveOver rfl hcont fun d hd => (hr d hd).1, Cursor.moveOver_moveOver,
        List.singleton_append]
    have hfilter : rest.head?.filter (!isAscii ·) = none := by
      rw [Option.filter_eq_none_iff]
      intro d hd
      simp [(hr d hd).2]
    have htext : (lx.cursor.moveOver (c :: raw) rest).textFrom lx.cursor.pos.offset = c :: raw :=
      Cursor.textFrom_moveOver _ _ _
    simp only [lexIdent, hc, if_true, heat, Cursor.current?, Cursor.rest_moveOver, hfilter, htext,
      nameIdent_eq, Cursor.pos_moveOver]
    simp [pastLexeme, hs, hspan, Segment.internIn, Segment.diagnostics, Lexeme.spelling]

/-- Where an identifier cannot go on, the lexer stays in front of the character. -/
theorem lexIdent_eq_error {head tail : List Char} {c first : Char} (h : lx.AtSegment s rest)
    (hs : s.lexeme = .rejected head c tail) (hfirst : lx.cursor.current? = some first) :
    lx.lexIdent first =
      (.error ⟨lx.file.name, c, s.charSpan head c⟩,
        { lx with cursor := lx.cursor.moveOver head (c :: (tail ++ rest)) }) := by
  have hrest := h.rest_eq
  have hl := h.followedBy
  have hspan := h.span_eq
  rw [hs] at hrest hl
  rw [Lexeme.spelling, List.append_assoc, List.cons_append] at hrest
  cases hl with
  | rejected hhead hc ht hr =>
    have herror : ∀ cur : Cursor, cur.pos = lx.cursor.pos.advanceOver head →
        ({ lx with cursor := cur } : Lexer).errorAt c = ⟨lx.file.name, c, s.charSpan head c⟩ := by
      intro cur hpos
      have hadv : (lx.cursor.pos.advanceOver head).advance c = _ :=
        Position.advance_of_ne _ (Lexeme.ne_newline_of_not_isAscii hc)
      simp only [errorAt, hpos, Segment.charSpan, hspan, Position.advanceOver_append,
        Position.advanceOver_singleton, hadv]
    rcases hhead with ⟨rfl, hstart⟩ | ⟨⟨d, raw, rfl, hd, hcont⟩, hstop⟩
    · rw [List.nil_append] at hrest
      obtain rfl : c = first := by
        rw [Cursor.current?, hrest] at hfirst
        exact Option.some.inj hfirst
      have hcur : lx.cursor.moveOver [] (c :: (tail ++ rest)) = lx.cursor := by
        rw [← hrest, Cursor.moveOver_nil]
      simp only [lexIdent, hstart, Bool.false_eq_true, if_false, hcur]
      exact congrArg (·, lx) (congrArg Except.error (herror lx.cursor rfl))
    · obtain rfl : d = first := by
        rw [Cursor.current?, hrest] at hfirst
        exact Option.some.inj hfirst
      have heat : lx.cursor.advance.eatWhile isIdentContinue =
          lx.cursor.moveOver (d :: raw) (c :: (tail ++ rest)) := by
        rw [Cursor.advance_eq_moveOver hrest, Cursor.eatWhile_eq_moveOver rfl hcont,
          Cursor.moveOver_moveOver, List.singleton_append]
        rintro _ ⟨⟩
        exact hstop
      have hfilter : (c :: (tail ++ rest)).head?.filter (!isAscii ·) = some c := by
        simp [hc]
      simp only [lexIdent, hd, if_true, heat, Cursor.current?, Cursor.rest_moveOver, hfilter]
      exact congrArg (·, _) (congrArg Except.error (herror _ rfl))

/-! ## Reading a segment -/

theorem readToken_eq_ok {token : Token} (h : lx.AtSegment s rest)
    (ht : s.token? lx.symbols = some token) :
    lx.readToken = (.ok token, lx.pastLexeme s rest) := by
  have hrest := h.rest_eq
  have hl := h.followedBy
  unfold Segment.token? at ht
  cases hs : s.lexeme with
  | ident raw =>
    rw [hs] at ht hl hrest
    cases ht
    cases hl with
    | ident hraw hr =>
      obtain ⟨c, raw, rfl, hc, -⟩ := hraw
      have hcur : lx.cursor.current? = some c := by
        rw [Cursor.current?, hrest]
        rfl
      rw [readToken_of_isIdentStart hcur hc, lexIdent_eq_ok h hs]
  | number literal =>
    rw [hs] at ht
    cases ht
    exact readToken_number h hs
  | newline =>
    rw [hs] at ht hrest
    cases ht
    rw [readToken_newline hrest]
    simp [pastLexeme, hs, Lexeme.spelling, Segment.internIn, Segment.diagnostics,
      DiagnosticLog.emitAll_nil]
  | punct mark =>
    rw [hs] at ht hrest
    cases ht
    rw [readToken_punct hrest]
    simp [pastLexeme, hs, Lexeme.spelling, Segment.internIn, Segment.diagnostics,
      DiagnosticLog.emitAll_nil]
  | invalid c =>
    have hspan := h.span_eq
    rw [hs] at ht hrest hl hspan
    cases ht
    cases hl with
    | invalid hc =>
      rw [readToken_invalid hrest hc]
      simp [pastLexeme, hs, Lexeme.spelling, Segment.internIn, Segment.diagnostics, reportError,
        tokenSpan, DiagnosticLog.error, DiagnosticLog.emitAll_singleton, hspan, h.tokenStart_eq,
        Cursor.pos_moveOver]
  | eof =>
    rw [hs] at ht hrest hl
    cases ht
    cases hl
    have hcur : lx.cursor.moveOver [] [] = lx.cursor := by
      rw [show lx.cursor.moveOver [] [] = lx.cursor.moveOver [] lx.cursor.rest by rw [hrest]; rfl,
        Cursor.moveOver_nil]
    rw [readToken_eof hrest]
    simp [pastLexeme, hs, Lexeme.spelling, Segment.internIn, Segment.diagnostics, hcur,
      DiagnosticLog.emitAll_nil]
  | rejected head c tail =>
    rw [hs] at ht
    cases ht

theorem readToken_eq_error {head tail : List Char} {c : Char} (h : lx.AtSegment s rest)
    (hs : s.lexeme = .rejected head c tail) :
    lx.readToken =
      (.error ⟨lx.file.name, c, s.charSpan head c⟩,
        { lx with cursor := lx.cursor.moveOver head (c :: (tail ++ rest)) }) := by
  have hrest := h.rest_eq
  have hl := h.followedBy
  rw [hs] at hrest hl
  cases hl with
  | rejected hhead hc ht hr =>
    rcases hhead with ⟨rfl, -⟩ | ⟨⟨d, raw, rfl, hd, -⟩, -⟩
    · have hcur : lx.cursor.current? = some c := by
        rw [Cursor.current?, hrest]
        rfl
      rw [readToken_of_not_isAscii hcur hc, lexIdent_eq_error h hs hcur]
    · have hcur : lx.cursor.current? = some d := by
        rw [Cursor.current?, hrest]
        rfl
      rw [readToken_of_isIdentStart hcur hd, lexIdent_eq_error h hs hcur]

section Step

variable {gap : List Char} {l : Lexeme} (h : lx.cursor.rest = gap ++ (l.spelling ++ rest))
  (hg : IsTrivia gap (l.spelling ++ rest)) (hl : l.FollowedBy rest)

include h hg hl

/-- Behind its gap the lexer stands at the lexeme. -/
theorem atSegment_beginToken :
    lx.beginToken.AtSegment (.place lx.file.id lx.cursor.pos gap l) rest := by
  rw [beginToken_eq h hg hl.atLexeme]
  refine ⟨rfl, hl, ?_, rfl⟩
  rw [Cursor.pos_moveOver, ← Position.advanceOver_append]
  rfl

theorem nextToken_eq_ok {token : Token}
    (ht : (Segment.place lx.file.id lx.cursor.pos gap l).token? lx.symbols = some token) :
    lx.nextToken = (.ok token, lx.past (.place lx.file.id lx.cursor.pos gap l) rest) := by
  have hbegin := beginToken_eq h hg hl.atLexeme
  have hsymbols : lx.beginToken.symbols = lx.symbols := by rw [hbegin]
  have hpast : lx.beginToken.pastLexeme (.place lx.file.id lx.cursor.pos gap l) rest =
      lx.past (.place lx.file.id lx.cursor.pos gap l) rest := by
    rw [hbegin]
    simp only [pastLexeme, past, Segment.place, Segment.text, Cursor.moveOver_moveOver]
  rw [nextToken, readToken_eq_ok (atSegment_beginToken h hg hl) (hsymbols.symm ▸ ht), hpast]

/-- At an error only the cursor moves, to the character, and the start of the token. -/
theorem nextToken_eq_error {head tail : List Char} {c : Char} (hs : l = .rejected head c tail) :
    lx.nextToken =
      (.error ⟨lx.file.name, c, (Segment.place lx.file.id lx.cursor.pos gap l).charSpan head c⟩,
        { lx with
          cursor := lx.cursor.moveOver (gap ++ head) (c :: (tail ++ rest))
          tokenStart := lx.cursor.pos.advanceOver gap }) := by
  have hbegin := beginToken_eq h hg hl.atLexeme
  have herror := readToken_eq_error (atSegment_beginToken h hg hl) hs
  rw [nextToken, herror, hbegin]
  simp only [Cursor.moveOver_moveOver]

theorem nextSpanned_eq_ok {token : Token}
    (ht : (Segment.place lx.file.id lx.cursor.pos gap l).token? lx.symbols = some token) :
    lx.nextSpanned =
      (.ok ⟨token, (Segment.place lx.file.id lx.cursor.pos gap l).span⟩,
        lx.past (.place lx.file.id lx.cursor.pos gap l) rest) := by
  rw [nextSpanned, nextToken_eq_ok h hg hl ht]
  rfl

theorem nextSpanned_eq_error {head tail : List Char} {c : Char}
    (hs : l = .rejected head c tail) :
    lx.nextSpanned =
      (.error ⟨lx.file.name, c, (Segment.place lx.file.id lx.cursor.pos gap l).charSpan head c⟩,
        { lx with
          cursor := lx.cursor.moveOver (gap ++ head) (c :: (tail ++ rest))
          tokenStart := lx.cursor.pos.advanceOver gap }) := by
  rw [nextSpanned, nextToken_eq_error h hg hl hs]

end Step

end Lexer

end Lexicon
