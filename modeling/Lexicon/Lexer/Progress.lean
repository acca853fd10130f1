import Lexicon.Lexer.Basic

/-!
# Progress

What is left of the text after a step of the lexer: less after every token but the last
(`remaining_nextToken_lt`), and less after giving up the line of an error
(`remaining_skipLine_lt`).  So reading on and on comes to an end.
-/

namespace Lexicon

open Source

namespace Lexer

/-- The number of characters that are left. -/
def remaining (lx : Lexer) : Nat := lx.cursor.rest.length

theorem length_dropWhile_le {α : Type} (p : α → Bool) (l : List α) :
    (l.dropWhile p).length ≤ l.length := (List.dropWhile_sublist p).length_le

theorem remaining_skipComment_le (lx : Lexer) : lx.skipComment.remaining ≤ lx.remaining := by
  simp only [remaining, skipComment, Cursor.rest_eatWhile]
  exact length_dropWhile_le _ _

theorem remaining_skipTrivia_le (lx : Lexer) : lx.skipTrivia.remaining ≤ lx.remaining := by
  have h :
      ({ lx with cursor := lx.cursor.eatWhile isBlank } : Lexer).remaining ≤ lx.remaining := by
    simp only [remaining, Cursor.rest_eatWhile]
    exact length_dropWhile_le _ _
  rw [skipTrivia]
  split
  · exact Nat.le_trans (remaining_skipComment_le _) h
  · exact h

theorem remaining_advance_lt {lx : Lexer} {c : Char} (h : lx.cursor.current? = some c) :
    lx.advance.remaining < lx.remaining := by
  obtain ⟨rest, hr⟩ : ∃ rest, lx.cursor.rest = c :: rest := List.head?_eq_some_iff.1 h
  simp [remaining, advance, Cursor.rest_advance, hr]

theorem remaining_lexNumber_lt {lx : Lexer} {c : Char} (h : lx.cursor.current? = some c)
    (hc : c.isDigit) : lx.lexNumber.2.remaining < lx.remaining := by
  obtain ⟨rest, hr⟩ : ∃ rest, lx.cursor.rest = c :: rest := List.head?_eq_some_iff.1 h
  have : (Numeral.split (c :: rest)).2.length < (c :: rest).length := Numeral.length_split_lt hc
  unfold lexNumber
  dsimp only
  split <;> simpa [remaining, reportError, Cursor.rest_moveOver, hr] using this

theorem remaining_nameIdent (lx : Lexer) (raw : List Char) (span : Span) :
    (lx.nameIdent raw span).2.remaining = lx.remaining := rfl

theorem remaining_lexIdent_lt {lx lx' : Lexer} {c first : Char} {token : Token}
    (h : lx.cursor.current? = some c) (hl : lx.lexIdent first = (.ok token, lx')) :
    lx'.remaining < lx.remaining := by
  obtain ⟨rest, hr⟩ : ∃ rest, lx.cursor.rest = c :: rest := List.head?_eq_some_iff.1 h
  rw [lexIdent] at hl
  split at hl
  · dsimp only at hl
    split at hl
    · cases hl
    · cases hl
      have := length_dropWhile_le Unicode.isIdentContinue rest
      simp only [remaining_nameIdent]
      simp only [remaining, Cursor.rest_eatWhile, Cursor.rest_advance, hr, List.tail_cons,
        List.length_cons]
      omega
  · cases hl

theorem remaining_beginToken_le (lx : Lexer) : lx.beginToken.remaining ≤ lx.remaining :=
  lx.remaining_skipTrivia_le

theorem remaining_readToken_lt {lx lx' : Lexer} {token : Token}
    (h : lx.readToken = (.ok token, lx')) (ht : token ≠ .eof) : lx'.remaining < lx.remaining := by
  unfold readToken at h
  split at h
  · cases h; exact absurd rfl ht
  next c hc =>
    have hadv := remaining_advance_lt hc
    split at h
    · cases h; exact hadv
    split at h
    · cases h; exact hadv
    split at h
    next hd => cases h; exact remaining_lexNumber_lt hc hd
    split at h
    · exact remaining_lexIdent_lt hc h
    · cases h; exact hadv

/-- Every token but the last takes up at least one character. -/
theorem remaining_nextToken_lt {lx lx' : Lexer} {token : Token}
    (h : lx.nextToken = (.ok token, lx')) (ht : token ≠ .eof) : lx'.remaining < lx.remaining :=
  Nat.lt_of_lt_of_le (remaining_readToken_lt h ht) lx.remaining_beginToken_le

theorem remaining_nextSpanned_lt {lx lx' : Lexer} {t : SpannedToken}
    (h : lx.nextSpanned = (.ok t, lx')) (ht : t.token ≠ .eof) : lx'.remaining < lx.remaining := by
  unfold nextSpanned at h
  split at h
  next hn => cases h; exact remaining_nextToken_lt hn ht
  next => cases h

/-! ## Errors -/

/-- A character that cannot start a token of its own, and is no line feed either. -/
theorem exists_of_lexIdent_error {lx lx' : Lexer} {c : Char} {e : LexError}
    (h : lx.cursor.current? = some c) (hc : c ≠ '\n') (hl : lx.lexIdent c = (.error e, lx')) :
    ∃ d, lx'.cursor.current? = some d ∧ d ≠ '\n' := by
  rw [lexIdent] at hl
  split at hl
  · dsimp only at hl
    split at hl
    next d hd =>
      cases hl
      obtain ⟨hd, ha⟩ := Option.filter_eq_some_iff.1 hd
      refine ⟨d, hd, ?_⟩
      rintro rfl
      simp [Unicode.isAscii] at ha
    next => cases hl
  · cases hl; exact ⟨c, h, hc⟩

/-- At an error the cursor stands in front of a character within the line. -/
theorem exists_of_nextToken_error {lx lx' : Lexer} {e : LexError}
    (h : lx.nextToken = (.error e, lx')) : ∃ c, lx'.cursor.current? = some c ∧ c ≠ '\n' := by
  unfold nextToken readToken at h
  split at h
  · cases h
  next c hc =>
    split at h
    · cases h
    next hn =>
      split at h
      · cases h
      split at h
      · cases h
      split at h
      · exact exists_of_lexIdent_error hc hn h
      · cases h

theorem remaining_nextToken_error_le {lx lx' : Lexer} {e : LexError}
    (h : lx.nextToken = (.error e, lx')) : lx'.remaining ≤ lx.remaining := by
  refine Nat.le_trans ?_ lx.remaining_beginToken_le
  unfold nextToken readToken at h
  split at h
  · cases h
  next c hc =>
    split at h
    · cases h
    split at h
    · cases h
    split at h
    · cases h
    split at h
    · rw [lexIdent] at h
      split at h
      · dsimp only at h
        split at h
        · cases h
          simp only [remaining, Cursor.rest_eatWhile, Cursor.rest_advance]
          have := length_dropWhile_le Unicode.isIdentContinue lx.beginToken.cursor.rest.tail
          have := List.length_tail (l := lx.beginToken.cursor.rest)
          omega
        · cases h
      · cases h; exact Nat.le_refl _
    · cases h

theorem remaining_skipLine_lt_of_current {lx : Lexer} {c : Char}
    (h : lx.cursor.current? = some c) (hc : c ≠ '\n') : lx.skipLine.remaining < lx.remaining := by
  obtain ⟨rest, hr⟩ : ∃ rest, lx.cursor.rest = c :: rest := List.head?_eq_some_iff.1 h
  have := length_dropWhile_le (· != '\n') rest
  simp only [remaining, skipLine, skipComment, Cursor.rest_eatWhile, hr, List.length_cons]
  rw [List.dropWhile_cons_of_pos (by simpa using hc)]
  omega

/-- Giving up the line of an error takes up at least one character. -/
theorem remaining_skipLine_lt {lx lx' : Lexer} {e : LexError}
    (h : lx.nextSpanned = (.error e, lx')) (log : DiagnosticLog) :
    ({ lx' with log } : Lexer).skipLine.remaining < lx.remaining := by
  unfold nextSpanned at h
  split at h
  next => cases h
  next hn =>
    cases h
    obtain ⟨c, hc, hnl⟩ := exists_of_nextToken_error hn
    have hle := remaining_nextToken_error_le hn
    have hlt : ({ lx' with log } : Lexer).skipLine.remaining < lx'.remaining :=
      remaining_skipLine_lt_of_current hc hnl
    exact Nat.lt_of_lt_of_le hlt hle

end Lexer

end Lexicon
