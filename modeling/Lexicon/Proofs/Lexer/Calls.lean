import Lexicon.Proofs.Lexer.Run

/-!
# Calls of the lexer

Whatever calls are made of a lexer, it stands somewhere in its file, its token begins at or before
the cursor, and no call leads back (`Stands.follows_perform`).  So every span that it answers with
or reports about lies in the file, and its cursor agrees with the line table of the file
(`cursor_agrees_with_file`).
-/

namespace Lexicon

open Source Text Unicode

/-- The spans that a token carries. -/
def Token.spans : Token → List Span
  | .ident id => [id.span]
  | _ => []

namespace Lexer

/-- What can be asked of a lexer. -/
inductive Call where
  | nextToken
  | nextSpanned
  | next
  | skipLine
  | skipTrivia
  | skipComment
  | lexNumber
  | lexIdent (first : Char)

/-- What a lexer answers. -/
inductive Answer where
  | done
  | token (result : Except LexError Token)
  | spanned (result : Except LexError SpannedToken)
  | item (result : Option (Except LexError Token))

/-- The spans of the token with which the lexer answers. -/
def Answer.spans : Answer → List Span
  | .token (.ok t) | .item (some (.ok t)) => t.spans
  | .spanned (.ok t) => t.span :: t.token.spans
  | _ => []

def perform (lx : Lexer) : Call → Answer × Lexer
  | .nextToken => (.token lx.nextToken.1, lx.nextToken.2)
  | .nextSpanned => (.spanned lx.nextSpanned.1, lx.nextSpanned.2)
  | .next => (.item lx.next?.1, lx.next?.2)
  | .skipLine => (.done, lx.skipLine)
  | .skipTrivia => (.done, lx.skipTrivia)
  | .skipComment => (.done, lx.skipComment)
  | .lexNumber => (.token (.ok lx.lexNumber.1), lx.lexNumber.2)
  | .lexIdent first => (.token (lx.lexIdent first).1, (lx.lexIdent first).2)

/-- The lexer after calls. -/
def performAll (lx : Lexer) (calls : List Call) : Lexer :=
  calls.foldl (fun lx call => (lx.perform call).2) lx

/-! ## What reading leaves alone -/

/-- Only the cursor, the symbols and the log changed. -/
structure Keeps (lx lx' : Lexer) : Prop where
  file_eq : lx'.file = lx.file
  options_eq : lx'.options = lx.options
  tokenStart_eq : lx'.tokenStart = lx.tokenStart
  finished_eq : lx'.finished = lx.finished

theorem keeps_skipTrivia (lx : Lexer) : lx.Keeps lx.skipTrivia := by
  unfold skipTrivia
  dsimp only
  split_ifs <;> exact ⟨rfl, rfl, rfl, rfl⟩

theorem keeps_lexNumber (lx : Lexer) : lx.Keeps lx.lexNumber.2 := by
  unfold lexNumber
  dsimp only
  split <;> exact ⟨rfl, rfl, rfl, rfl⟩

theorem keeps_lexIdent (lx : Lexer) (first : Char) : lx.Keeps (lx.lexIdent first).2 := by
  unfold lexIdent
  split
  · dsimp only
    split <;> exact ⟨rfl, rfl, rfl, rfl⟩
  · exact ⟨rfl, rfl, rfl, rfl⟩

theorem keeps_readToken (lx : Lexer) : lx.Keeps lx.readToken.2 := by
  unfold readToken
  split
  · exact ⟨rfl, rfl, rfl, rfl⟩
  · split
    · exact ⟨rfl, rfl, rfl, rfl⟩
    split
    · exact ⟨rfl, rfl, rfl, rfl⟩
    split
    · exact lx.keeps_lexNumber
    split
    · exact lx.keeps_lexIdent _
    · exact ⟨rfl, rfl, rfl, rfl⟩

/-! ## Standing in a file -/

/-- The lexer stands in `file`, at or behind the start of its token. -/
structure Stands (file : SourceFile) (lx : Lexer) : Prop where
  file_eq : lx.file = file
  cursor : lx.cursor.StandsIn file.text
  tokenStart : file.HasPosition lx.tokenStart
  offset_le : lx.tokenStart.offset ≤ lx.cursor.pos.offset

/-- The lexer `lx'` stands in `file`, not before `lx`, and has reported about parts of the file
since. -/
structure Follows (file : SourceFile) (lx lx' : Lexer) : Prop where
  stands : lx'.Stands file
  offset_le : lx.cursor.pos.offset ≤ lx'.cursor.pos.offset
  reports : ∃ reports, lx'.log = lx.log.emitAll reports ∧ ∀ d ∈ reports, file.Covers d.span

/-- What was read lies in the file, and the lexer follows the one that read it. -/
structure Reads (file : SourceFile) (lx : Lexer) (result : Except LexError Token × Lexer) :
    Prop where
  follows : lx.Follows file result.2
  spans : ∀ token, result.1 = .ok token → ∀ span ∈ token.spans, file.Covers span

variable {file : SourceFile} {lx lx' lx'' : Lexer}

theorem Follows.trans (h : lx.Follows file lx') (h' : lx'.Follows file lx'') :
    lx.Follows file lx'' := by
  obtain ⟨reports, hlog, hreports⟩ := h.reports
  obtain ⟨reports', hlog', hreports'⟩ := h'.reports
  refine ⟨h'.stands, Nat.le_trans h.offset_le h'.offset_le, reports ++ reports', ?_, ?_⟩
  · rw [hlog', hlog, DiagnosticLog.emitAll_append]
  · exact List.forall_mem_append.2 ⟨hreports, hreports'⟩

/-- The end of the iteration and the symbols are no matter here. -/
theorem Follows.update (h : lx.Follows file lx') (finished : Bool) (symbols : SymbolTable) :
    lx.Follows file { lx' with finished, symbols } :=
  ⟨⟨h.stands.file_eq, h.stands.cursor, h.stands.tokenStart, h.stands.offset_le⟩, h.offset_le,
    h.reports⟩

theorem Stands.refl (h : lx.Stands file) : lx.Follows file lx :=
  ⟨h, Nat.le_refl _, [], (lx.log.emitAll_nil).symm, nofun⟩

/-- A token that is no identifier carries no span. -/
theorem Follows.reads (h : lx.Follows file lx') {token : Token} (ht : token.spans = []) :
    lx.Reads file (.ok token, lx') := by
  refine ⟨h, ?_⟩
  rintro _ ⟨⟩ span hmem
  rw [ht] at hmem
  cases hmem

theorem Stands.covers_tokenSpan (h : lx.Stands file) : file.Covers lx.tokenSpan := by
  have hcovers := h.tokenStart.covers h.cursor.hasPosition h.offset_le
  rwa [← h.file_eq] at hcovers ⊢

theorem Stands.moveOver (h : lx.Stands file) {taken rest : List Char}
    (hr : lx.cursor.rest = taken ++ rest) :
    lx.Follows file { lx with cursor := lx.cursor.moveOver taken rest } := by
  have hle : lx.cursor.pos.offset ≤ (lx.cursor.moveOver taken rest).pos.offset :=
    lx.cursor.pos.offset_le_advanceOver taken
  exact ⟨⟨h.file_eq, h.cursor.moveOver hr, h.tokenStart, Nat.le_trans h.offset_le hle⟩, hle, [],
    (lx.log.emitAll_nil).symm, nofun⟩

theorem Stands.emit (h : lx.Stands file) {d : Diagnostic} (hd : file.Covers d.span) :
    lx.Follows file { lx with log := lx.log.emit d } :=
  ⟨⟨h.file_eq, h.cursor, h.tokenStart, h.offset_le⟩, Nat.le_refl _, [d],
    (lx.log.emitAll_singleton d).symm, by simpa using hd⟩

/-! ## Single steps -/

theorem Stands.eatWhile (h : lx.Stands file) (p : Char → Bool) :
    lx.Follows file { lx with cursor := lx.cursor.eatWhile p } :=
  h.moveOver List.takeWhile_append_dropWhile.symm

theorem Stands.advance (h : lx.Stands file) : lx.Follows file lx.advance := by
  rw [Lexer.advance, Cursor.advance_eq]
  exact h.moveOver (List.take_append_drop 1 _).symm

theorem Stands.reportError (h : lx.Stands file) (code : DiagnosticCode) (message : String) :
    lx.Follows file (lx.reportError code message) :=
  h.emit h.covers_tokenSpan

theorem Stands.skipComment (h : lx.Stands file) : lx.Follows file lx.skipComment :=
  h.eatWhile _

theorem Stands.skipLine (h : lx.Stands file) : lx.Follows file lx.skipLine :=
  h.skipComment.update false _

theorem Stands.skipTrivia (h : lx.Stands file) : lx.Follows file lx.skipTrivia := by
  have hblanks := h.eatWhile isBlank
  unfold Lexer.skipTrivia
  dsimp only
  split_ifs
  · exact hblanks.trans hblanks.stands.skipComment
  · exact hblanks

theorem Stands.beginToken (h : lx.Stands file) : lx.Follows file lx.beginToken := by
  have hskip := h.skipTrivia
  refine ⟨⟨hskip.stands.file_eq, hskip.stands.cursor, ?_, Nat.le_refl _⟩, hskip.offset_le,
    hskip.reports⟩
  exact hskip.stands.cursor.hasPosition

theorem Stands.reads_lexNumber (h : lx.Stands file) :
    lx.Reads file (.ok lx.lexNumber.1, lx.lexNumber.2) := by
  have hmove := h.moveOver (Numeral.split_append lx.cursor.rest).symm
  unfold lexNumber
  dsimp only
  split
  · exact hmove.reads rfl
  · exact (hmove.trans (hmove.stands.reportError _ _)).reads rfl

theorem Stands.nameIdent (h : lx.Stands file) (raw : List Char) {span : Span}
    (hspan : file.Covers span) : lx.Follows file (lx.nameIdent raw span).2 := by
  unfold Lexer.nameIdent
  dsimp only
  split_ifs
  · exact (h.emit hspan).update _ _
  · exact h.refl.update _ _

theorem Stands.reads_lexIdent (h : lx.Stands file) (first : Char) :
    lx.Reads file (lx.lexIdent first) := by
  unfold lexIdent
  split
  · have hadvance : lx.Follows file { lx with cursor := lx.cursor.advance } := h.advance
    have heat := hadvance.trans (hadvance.stands.eatWhile isIdentContinue)
    have hspan := h.cursor.hasPosition.covers heat.stands.cursor.hasPosition heat.offset_le
    rw [← h.file_eq] at hspan
    dsimp only
    split
    · exact ⟨heat, nofun⟩
    · refine ⟨heat.trans (heat.stands.nameIdent _ (h.file_eq ▸ hspan)), ?_⟩
      rintro _ ⟨⟩ span hmem
      rw [List.mem_singleton.1 hmem]
      exact h.file_eq ▸ hspan
  · exact ⟨h.refl, nofun⟩

theorem Stands.reads_readToken (h : lx.Stands file) : lx.Reads file lx.readToken := by
  unfold readToken
  split
  · exact h.refl.reads rfl
  · split
    · exact h.advance.reads rfl
    split
    · exact h.advance.reads rfl
    split
    · exact h.reads_lexNumber
    split
    · exact h.reads_lexIdent _
    · exact (h.advance.trans (h.advance.stands.reportError _ _)).reads rfl

theorem Stands.reads_nextToken (h : lx.Stands file) : lx.Reads file lx.nextToken := by
  have hbegin := h.beginToken
  have hread := hbegin.stands.reads_readToken
  exact ⟨hbegin.trans hread.follows, hread.spans⟩

/-- Every token but the last covers some of the text. -/
theorem Stands.isEmpty_tokenSpan (h : lx.Stands file) {token : Token}
    (ht : lx.nextToken = (.ok token, lx')) (hne : token ≠ .eof) :
    lx'.tokenSpan.isEmpty = false := by
  have hbegin := h.beginToken.stands
  have hread := hbegin.reads_readToken.follows.stands
  have hstart := lx.beginToken.keeps_readToken.tokenStart_eq
  rw [show lx.beginToken.readToken = (.ok token, lx') from ht] at hread hstart
  have hstart' : lx'.tokenStart = lx.beginToken.cursor.pos := hstart
  have hlt : lx.beginToken.cursor.pos.offset < lx'.cursor.pos.offset :=
    hbegin.cursor.offset_lt hread.cursor (remaining_readToken_lt ht hne)
  rw [← hstart'] at hlt
  exact beq_eq_false_iff_ne.2 (Nat.ne_of_lt hlt)

theorem Reads.spans_token {result : Except LexError Token × Lexer} (h : lx.Reads file result) :
    ∀ span ∈ (Answer.token result.1).spans, file.Covers span := by
  cases hresult : result.1 with
  | ok token => exact h.spans token hresult
  | error e => exact nofun

theorem Stands.follows_nextSpanned (h : lx.Stands file) :
    lx.Follows file lx.nextSpanned.2 ∧
      ∀ span ∈ (Answer.spanned lx.nextSpanned.1).spans, file.Covers span := by
  have hnext := h.reads_nextToken
  unfold nextSpanned
  generalize lx.nextToken = result at hnext
  match result with
  | (.ok token, lx') =>
    refine ⟨hnext.follows, fun span hspan => ?_⟩
    rcases List.mem_cons.1 hspan with rfl | hspan
    · exact hnext.follows.stands.covers_tokenSpan
    · exact hnext.spans_token span hspan
  | (.error e, lx') => exact ⟨hnext.follows, nofun⟩

/-! ### Steps of the iteration -/

/-- The lexer with its iteration over. -/
def finish (lx : Lexer) : Lexer := { lx with finished := true }

/-- The ways in which the iteration can go on. -/
inductive NextStep (lx : Lexer) : Prop
  | finished (hf : lx.finished)
  | eof {lx' : Lexer} (hf : lx.finished = false) (h : lx.nextToken = (.ok .eof, lx'))
  | token {token : Token} {lx' : Lexer} (hf : lx.finished = false)
    (h : lx.nextToken = (.ok token, lx')) (hne : token ≠ .eof)
  | error {e : LexError} {lx' : Lexer} (hf : lx.finished = false)
    (h : lx.nextToken = (.error e, lx'))

theorem nextStep (lx : Lexer) : lx.NextStep := by
  cases hf : lx.finished with
  | true => exact .finished hf
  | false =>
    match h : lx.nextToken with
    | (.error e, lx') => exact .error hf h
    | (.ok token, lx') =>
      by_cases hne : token = .eof
      · exact .eof hf (hne ▸ h)
      · exact .token hf h hne

theorem next?_of_finished (hf : lx.finished) : lx.next? = (none, lx) := by
  rw [next?, if_pos hf]

theorem next?_of_eof (hf : lx.finished = false) (h : lx.nextToken = (.ok .eof, lx')) :
    lx.next? = (none, lx'.finish) := by
  rw [next?, hf, if_neg Bool.false_ne_true, h]
  rfl

theorem next?_of_ok {token : Token} (hf : lx.finished = false)
    (h : lx.nextToken = (.ok token, lx')) (hne : token ≠ .eof) :
    lx.next? = (some (.ok token), lx') := by
  rw [next?, hf, if_neg Bool.false_ne_true, h]
  cases token with
  | eof => exact absurd rfl hne
  | ident | number | newline | punct | invalid => rfl

theorem next?_of_error {e : LexError} (hf : lx.finished = false)
    (h : lx.nextToken = (.error e, lx')) : lx.next? = (some (.error e), lx'.finish) := by
  rw [next?, hf, if_neg Bool.false_ne_true, h]
  rfl

theorem Stands.follows_next? (h : lx.Stands file) :
    lx.Follows file lx.next?.2 ∧ ∀ span ∈ (Answer.item lx.next?.1).spans, file.Covers span := by
  have hnext := h.reads_nextToken
  cases lx.nextStep with
  | finished hf =>
    rw [next?_of_finished hf]
    exact ⟨h.refl, nofun⟩
  | eof hf ht =>
    rw [ht] at hnext
    rw [next?_of_eof hf ht]
    exact ⟨hnext.follows.update true _, nofun⟩
  | token hf ht hne =>
    rw [ht] at hnext
    rw [next?_of_ok hf ht hne]
    exact ⟨hnext.follows, hnext.spans_token⟩
  | error hf ht =>
    rw [ht] at hnext
    rw [next?_of_error hf ht]
    exact ⟨hnext.follows.update true _, nofun⟩

/-! ## Calls -/

/-- A call leads on, and it answers with spans in the file. -/
theorem Stands.follows_perform (h : lx.Stands file) (call : Call) :
    lx.Follows file (lx.perform call).2 ∧
      ∀ span ∈ (lx.perform call).1.spans, file.Covers span := by
  cases call with
  | nextToken => exact ⟨h.reads_nextToken.follows, h.reads_nextToken.spans_token⟩
  | nextSpanned => exact h.follows_nextSpanned
  | next => exact h.follows_next?
  | skipLine => exact ⟨h.skipLine, nofun⟩
  | skipTrivia => exact ⟨h.skipTrivia, nofun⟩
  | skipComment => exact ⟨h.skipComment, nofun⟩
  | lexNumber => exact ⟨h.reads_lexNumber.follows, h.reads_lexNumber.spans_token⟩
  | lexIdent first =>
    exact ⟨(h.reads_lexIdent first).follows, (h.reads_lexIdent first).spans_token⟩

theorem Stands.performAll (h : lx.Stands file) (calls : List Call) :
    (lx.performAll calls).Stands file := by
  induction calls generalizing lx with
  | nil => exact h
  | cons call calls ih => exact ih (h.follows_perform call).1.stands

theorem stands_ofFile (file : SourceFile) (options : LexOptions) (symbols : SymbolTable)
    (log : DiagnosticLog) : (Lexer.ofFile file options symbols log).Stands file :=
  ⟨rfl, (Cursor.standsIn_ofText _).eat _, file.hasPosition_start, Nat.zero_le _⟩

/-- The lexer is at a place of the file, with a token in the file behind it.  The token that it
reads next is not empty, unless it is the last one. -/
structure AgreesWith (file : SourceFile) (lx : Lexer) : Prop where
  cursor : lx.cursor.AgreesWith file
  tokenStart_le : lx.tokenStart.offset ≤ lx.cursor.pos.offset
  tokenSpan : file.Covers lx.tokenSpan
  nextToken : ∀ token lx', lx.nextToken = (.ok token, lx') → token ≠ .eof →
    lx'.tokenSpan.isEmpty = false

theorem Stands.agreesWith (h : lx.Stands file) : lx.AgreesWith file :=
  ⟨h.cursor.agreesWith, h.offset_le, h.covers_tokenSpan, fun _ _ => h.isEmpty_tokenSpan⟩

end Lexer

/-- Cursors move over the characters that they are asked to move over.  Whatever is done with a
cursor in the text of a file, or with a lexer of the file, at every place it tells what the line
table tells about the offset.  A call of the lexer does not lead back, no token but the last is
empty, and all spans that the lexer answers with or reports about lie in the file. -/
theorem cursor_agrees_with_file (file : SourceFile) :
    (∀ cur : Cursor, cur.Moves) ∧
    (∀ calls, let session := Cursor.Session.run file.text calls
      session.cursor.AgreesWith file ∧ ∀ cur ∈ session.saved, cur.AgreesWith file) ∧
    ∀ options symbols log calls call,
      let lx := (Lexer.ofFile file options symbols log).performAll calls
      let (answer, lx') := lx.perform call
      lx.AgreesWith file ∧ lx'.AgreesWith file ∧ lx.cursor.pos.offset ≤ lx'.cursor.pos.offset ∧
        (∀ span ∈ answer.spans, file.Covers span) ∧
        ∃ reports, lx'.log = lx.log.emitAll reports ∧ ∀ d ∈ reports, file.Covers d.span := by
  refine ⟨Cursor.moves, ?_, ?_⟩
  · intro calls
    have hsession := Cursor.Session.standsIn_run file.text calls
    exact ⟨hsession.cursor.agreesWith, fun cur hcur => (hsession.saved cur hcur).agreesWith⟩
  · intro options symbols log calls call
    have hstands := (Lexer.stands_ofFile file options symbols log).performAll calls
    obtain ⟨hfollows, hspans⟩ := hstands.follows_perform call
    exact ⟨hstands.agreesWith, hfollows.stands.agreesWith, hfollows.offset_le, hspans,
      hfollows.reports⟩

end Lexicon
