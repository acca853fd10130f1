import Lexicon.Proofs.Lexer.Calls
import Lexicon.Proofs.Lexer.LongestMatch

/-!
# Resuming after an error

A lexer that fails stops in front of the character that its error is about (`StopsAt`), also where
it has read the identifier before that character.  Asked again it starts at the character, which
starts no identifier either, so it fails with the same error (`StopsAt.nextToken`) and stays where
it is, however often and in whatever way it is asked (`StopsAt.performAll`).  Giving up the line
leads to its line feed or to the end of the text (`exists_skipLine`).  Whatever was called before,
an error leaves the lexer like that (`nextToken_error_resumable`).
-/

namespace Lexicon

open Source Text Unicode

/-- A cursor is determined by its text and its place there. -/
theorem Source.Cursor.StandsBehind.unique {text before : List Char} {cur cur' : Cursor}
    (h : cur.StandsBehind text before) (h' : cur'.StandsBehind text before) : cur = cur' := by
  obtain ⟨passed, rest, pos⟩ := cur
  obtain ⟨passed', rest', pos'⟩ := cur'
  obtain rfl : passed = passed' := h.passed_eq.trans h'.passed_eq.symm
  obtain rfl : rest = rest' := List.append_cancel_left (h.text_eq.symm.trans h'.text_eq)
  obtain rfl : pos = pos' := h.pos_eq.trans h'.pos_eq.symm
  rfl

/-- An error is determined by its character and the place of that. -/
theorem LexError.PointsAt.unique {file : SourceFile} {before : List Char} {c : Char}
    {e e' : LexError} (h : e.PointsAt file before c) (h' : e'.PointsAt file before c) : e = e' := by
  obtain ⟨name, offending, lo, hi, id⟩ := e
  obtain ⟨name', offending', lo', hi', id'⟩ := e'
  obtain rfl : name = name' := h.file_eq.trans h'.file_eq.symm
  obtain rfl : offending = offending' := h.offending_eq.trans h'.offending_eq.symm
  obtain rfl : lo = lo' := h.span.lo_eq.trans h'.span.lo_eq.symm
  obtain rfl : hi = hi' := h.span.hi_eq.trans h'.span.hi_eq.symm
  obtain rfl : id = id' := h.span.file_eq.trans h'.span.file_eq.symm
  rfl

namespace Lexer

/-- Whether a call asks for the next token. -/
def Call.asks : Call → Bool
  | .nextToken | .nextSpanned | .next => true
  | .skipLine | .skipTrivia | .skipComment | .lexNumber | .lexIdent _ => false

/-- The lexer stands in the file behind `before`, in front of the character that the error is about,
which is beyond ASCII and starts no identifier. -/
structure StopsAt (file : SourceFile) (e : LexError) (before : List Char) (lx : Lexer) : Prop where
  file_eq : lx.file = file
  faces : ∃ after, lx.Faces before [] (e.offending :: after)
  pointsAt : e.PointsAt file before e.offending
  not_isAscii : isAscii e.offending = false
  not_isIdentStart : isIdentStart e.offending = false

/-- The lexer fails with the error, of which it stands in front, and stays there without a report.
Behind the rest of the line the next token is the line feed or the end of the text. -/
structure IsResumable (file : SourceFile) (e : LexError) (lx : Lexer) : Prop where
  stands : ∃ before after, lx.cursor.StandsBehind file.text before ∧
    lx.cursor.rest = e.offending :: after ∧ e.PointsAt file before e.offending
  not_isAscii : isAscii e.offending = false
  nextToken : lx.nextToken.1 = .error e
  cursor_eq : lx.nextToken.2.cursor = lx.cursor
  log_eq : lx.nextToken.2.log = lx.log
  skipLine : ∃ line rest, lx.cursor.rest = line ++ rest ∧ '\n' ∉ line ∧
    lx.skipLine.cursor = lx.cursor.moveOver line rest ∧
    lx.skipLine.cursor.pos.line = lx.cursor.pos.line ∧
    (rest = [] ∧ lx.skipLine.nextToken.1 = .ok .eof ∨
      rest.head? = some '\n' ∧ lx.skipLine.nextToken.1 = .ok .newline)

variable {file : SourceFile} {lx lx' : Lexer} {e : LexError} {before : List Char}

/-- Only a rejected lexeme is an error, and its character starts no identifier, be it because it
should have started one or because it cannot even continue one. -/
theorem stopsAt_of_nextToken_eq_error (hfile : lx.file = file)
    (hstands : lx.cursor.StandsIn file.text) (h : lx.nextToken = (.error e, lx')) :
    (∃ before, lx'.StopsAt file e before) ∧ lx'.log = lx.log := by
  subst hfile
  obtain ⟨before, hbehind⟩ := hstands
  obtain ⟨gap, rest, hrest, hgap, hlexeme⟩ := exists_trivia lx.cursor.rest
  obtain ⟨l, rest, rfl, hl⟩ := Lexeme.exists_followedBy hlexeme
  have hface : lx.Faces before gap (l.spelling ++ rest) := ⟨hbehind, hrest, hgap⟩
  cases htoken : (Segment.place lx.file.id lx.cursor.pos gap l).token? lx.symbols with
  | some token =>
    rw [nextToken_eq_ok hrest hgap hl htoken] at h
    cases h
  | none =>
    obtain ⟨head, c, tail, rfl⟩ : ∃ head c tail, l = .rejected head c tail := by
      cases l with
      | rejected head c tail => exact ⟨head, c, tail, rfl⟩
      | ident | number | newline | punct | invalid | eof => cases htoken
    obtain ⟨e', lx'', hnext, hpoints, hface', hfile, hlog⟩ := hface.nextToken_rejected hl
    rw [hnext] at h
    cases h
    obtain rfl : e.offending = c := hpoints.offending_eq
    refine ⟨⟨before ++ gap ++ head, hfile, ⟨_, hface'⟩, hpoints, ?_, ?_⟩, hlog⟩
    · cases hl with
      | rejected hhead hc htail hend => exact hc
    · cases hl with
      | rejected hhead hc htail hend =>
        rcases hhead with ⟨-, hstart⟩ | ⟨-, hcont⟩
        · exact hstart
        · by_contra hstart
          rw [isIdentContinue_of_isIdentStart (by simpa using hstart)] at hcont
          cases hcont

/-- The rest of the line holds no line feed, and behind it there is one, if anything. -/
theorem exists_skipLine (lx : Lexer) :
    ∃ line rest, lx.cursor.rest = line ++ rest ∧ '\n' ∉ line ∧
      lx.skipLine.cursor = lx.cursor.moveOver line rest ∧
      lx.skipLine.cursor.pos.line = lx.cursor.pos.line ∧
      (rest = [] ∧ lx.skipLine.nextToken.1 = .ok .eof ∨
        rest.head? = some '\n' ∧ lx.skipLine.nextToken.1 = .ok .newline) := by
  have hline := newline_notMem_takeWhile lx.cursor.rest
  refine ⟨lx.cursor.rest.takeWhile (· != '\n'), lx.cursor.rest.dropWhile (· != '\n'),
    List.takeWhile_append_dropWhile.symm, hline, rfl, ?_, ?_⟩
  · show (lx.cursor.pos.advanceOver (lx.cursor.rest.takeWhile (· != '\n'))).line = _
    rw [Position.line_advanceOver, List.count_eq_zero.2 hline, Nat.add_zero]
  · have hend := atLineEnd_dropWhile lx.cursor.rest
    have hskip : lx.skipLine.cursor.rest = lx.cursor.rest.dropWhile (· != '\n') := rfl
    cases hrest : lx.cursor.rest.dropWhile (· != '\n') with
    | nil =>
      have hfollowed : Lexeme.eof.FollowedBy [] := .eof
      have hgap : IsTrivia [] (Lexeme.eof.spelling ++ []) := .blanks (List.forall_mem_nil _)
      rw [hrest] at hskip
      rw [nextToken_eq_ok hskip hgap hfollowed rfl]
      exact .inl ⟨rfl, rfl⟩
    | cons c rest =>
      have hfollowed : Lexeme.newline.FollowedBy rest := .newline rest
      have hgap : IsTrivia [] (Lexeme.newline.spelling ++ rest) := .blanks (List.forall_mem_nil _)
      rw [hrest] at hskip hend
      obtain rfl : c = '\n' := hend c rfl
      rw [nextToken_eq_ok hskip hgap hfollowed rfl]
      exact .inr ⟨rfl, rfl⟩

namespace StopsAt

variable (h : lx.StopsAt file e before)

include h

theorem nextToken :
    ∃ lx', lx.nextToken = (.error e, lx') ∧ lx'.StopsAt file e before ∧
      lx'.cursor = lx.cursor ∧ lx'.log = lx.log := by
  obtain ⟨rfl, ⟨after, hface⟩, hpoints, hascii, hstart⟩ := h
  obtain ⟨tail, rest, hcut, hl⟩ := Lexeme.exists_rejected (.inl ⟨rfl, hstart⟩) hascii after
  have hface' : lx.Faces before [] ((Lexeme.rejected [] e.offending tail).spelling ++ rest) :=
    hcut ▸ hface
  obtain ⟨e', lx', hnext, hpoints', hface', hfile, hlog⟩ := hface'.nextToken_rejected hl
  rw [List.append_nil, List.append_nil] at hpoints' hface'
  obtain rfl : e = e' := hpoints.unique hpoints'
  have hcursor : lx'.cursor = lx.cursor :=
    (hfile ▸ hface'.behind).unique hface.behind
  exact ⟨lx', hnext, ⟨hfile, ⟨_, hface'⟩, hpoints, hascii, hstart⟩, hcursor, hlog⟩

/-- The end of the iteration is no matter here. -/
theorem finish : lx.finish.StopsAt file e before := by
  obtain ⟨hfile, ⟨after, hbehind, hrest, hgap⟩, hpoints, hascii, hstart⟩ := h
  exact ⟨hfile, ⟨after, hbehind, hrest, hgap⟩, hpoints, hascii, hstart⟩

/-- Whichever way the lexer is asked for a token, it stays where it is. -/
theorem perform {call : Call} (hcall : call.asks) :
    (lx.perform call).2.StopsAt file e before ∧ (lx.perform call).2.cursor = lx.cursor ∧
      (lx.perform call).2.log = lx.log := by
  obtain ⟨lx', hnext, hstops, hcursor, hlog⟩ := h.nextToken
  cases call with
  | nextToken =>
    rw [Lexer.perform, hnext]
    exact ⟨hstops, hcursor, hlog⟩
  | nextSpanned =>
    rw [Lexer.perform, nextSpanned, hnext]
    exact ⟨hstops, hcursor, hlog⟩
  | next =>
    rw [Lexer.perform]
    by_cases hf : lx.finished
    · rw [next?_of_finished hf]
      exact ⟨h, rfl, rfl⟩
    · rw [next?_of_error (by simpa using hf) hnext]
      exact ⟨hstops.finish, hcursor, hlog⟩
  | skipLine | skipTrivia | skipComment | lexNumber | lexIdent => cases hcall

theorem performAll {calls : List Call} (hcalls : ∀ call ∈ calls, call.asks) :
    (lx.performAll calls).StopsAt file e before ∧ (lx.performAll calls).cursor = lx.cursor ∧
      (lx.performAll calls).log = lx.log := by
  induction calls generalizing lx with
  | nil => exact ⟨h, rfl, rfl⟩
  | cons call calls ih =>
    rw [List.forall_mem_cons] at hcalls
    obtain ⟨hstops, hcursor, hlog⟩ := h.perform hcalls.1
    obtain ⟨hstops', hcursor', hlog'⟩ := ih hstops hcalls.2
    exact ⟨hstops', hcursor'.trans hcursor, hlog'.trans hlog⟩

theorem isResumable : lx.IsResumable file e := by
  obtain ⟨lx', hnext, hstops, hcursor, hlog⟩ := h.nextToken
  obtain ⟨after, hface⟩ := h.faces
  refine ⟨⟨before, after, h.file_eq ▸ hface.behind, hface.rest_eq, h.pointsAt⟩, h.not_isAscii,
    ?_, ?_, ?_, lx.exists_skipLine⟩
  · rw [hnext]
  · rw [hnext, hcursor]
  · rw [hnext, hlog]

end StopsAt

/-- Whatever was called before, a lexer that fails has reported nothing and stands in front of the
character that its error is about.  However often it is asked again, it stays there and can be
resumed: it fails with the same error, and behind the line it reads on. -/
theorem nextToken_error_resumable {options : LexOptions} {symbols : SymbolTable}
    {log : DiagnosticLog} {calls : List Call}
    (h : ((ofFile file options symbols log).performAll calls).nextToken = (.error e, lx')) :
    lx'.log = ((ofFile file options symbols log).performAll calls).log ∧
      ∀ again : List Call, (∀ call ∈ again, call.asks) →
        (lx'.performAll again).cursor = lx'.cursor ∧ (lx'.performAll again).log = lx'.log ∧
          (lx'.performAll again).IsResumable file e := by
  have hstands := (stands_ofFile file options symbols log).performAll calls
  obtain ⟨⟨before, hstops⟩, hlog⟩ :=
    stopsAt_of_nextToken_eq_error hstands.file_eq hstands.cursor h
  refine ⟨hlog, fun again hagain => ?_⟩
  obtain ⟨hstops', hcursor, hlog'⟩ := hstops.performAll hagain
  exact ⟨hcursor, hlog', hstops'.isResumable⟩

/-- An identifier that is rejected behind its first character, in the second line. -/
theorem nextToken_error_resumable_behind_head :
    ∃ (file : SourceFile) (lx lx' : Lexer) (e : LexError),
      file.text = "x\n\tµ€b # c\n".toList ∧
      lx = (ofFile file {} {} {}).performAll [.next, .skipLine, .nextSpanned, .skipTrivia] ∧
      lx.nextToken = (.error e, lx') ∧
      e = ⟨"a", '€', ⟨⟨5, 2, 3⟩, ⟨8, 2, 4⟩, 0⟩⟩ ∧
      lx'.log = lx.log ∧
      (lx'.performAll [.nextSpanned, .next, .next]).IsResumable file e := by
  have herror : ((ofFile { id := 0, name := "a", text := "x\n\tµ€b # c\n".toList } {} {}
      {}).performAll [.next, .skipLine, .nextSpanned, .skipTrivia]).nextToken.1 =
        .error ⟨"a", '€', ⟨⟨5, 2, 3⟩, ⟨8, 2, 4⟩, 0⟩⟩ := by
    decide +kernel
  obtain ⟨hlog, hagain⟩ := nextToken_error_resumable (Prod.ext herror rfl)
  obtain ⟨-, -, hresumable⟩ := hagain [.nextSpanned, .next, .next] (by decide)
  exact ⟨_, _, _, _, rfl, rfl, Prod.ext herror rfl, rfl, hlog, hresumable⟩

end Lexer

end Lexicon
