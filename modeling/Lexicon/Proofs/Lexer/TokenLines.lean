import Lexicon.Assignment
import Lexicon.Proofs.Lexer.Lossless

/-!
# Lines of tokens

Assignments are read off the tokens between two that end lines.  In the tokens of a file these are
the tokens that begin in one line of the text (`tokenLines_getElem?`).
-/

namespace Lexicon

open Source Text Unicode

/-- The tokens that begin in a line, without those that end lines. -/
def lineTokens (tokens : List SpannedToken) (line : Nat) : List Token :=
  (tokens.filter fun t => decide (t.span.lo.line = line) && !t.token.endsLine).map (·.token)

theorem lineTokens_append (a b : List SpannedToken) (line : Nat) :
    lineTokens (a ++ b) line = lineTokens a line ++ lineTokens b line := by
  rw [lineTokens, List.filter_append, List.map_append, lineTokens, lineTokens]

theorem lineTokens_cons_of_ne {t : SpannedToken} {line : Nat} (h : t.span.lo.line ≠ line)
    (tokens : List SpannedToken) : lineTokens (t :: tokens) line = lineTokens tokens line := by
  rw [lineTokens, List.filter_cons_of_neg (by simp [h]), lineTokens]

theorem lineTokens_cons_of_endsLine {t : SpannedToken} (h : t.token.endsLine)
    (tokens : List SpannedToken) (line : Nat) :
    lineTokens (t :: tokens) line = lineTokens tokens line := by
  rw [lineTokens, List.filter_cons_of_neg (by simp [h]), lineTokens]

theorem lineTokens_cons_of_eq {t : SpannedToken} {line : Nat} (h : t.span.lo.line = line)
    (ht : t.token.endsLine = false) (tokens : List SpannedToken) :
    lineTokens (t :: tokens) line = t.token :: lineTokens tokens line := by
  rw [lineTokens, List.filter_cons_of_pos (by simp [h, ht]), List.map_cons, lineTokens]

namespace Accounted

variable {file : FileId} {symbols : SymbolTable} {p : Position} {text : List Char}
  {tokens : List SpannedToken} {rejected : List Diagnostic}

theorem lineTokens_of_lt (h : Accounted file symbols p text tokens rejected) {line : Nat}
    (hl : line < p.line) : lineTokens tokens line = [] := by
  rw [lineTokens, List.map_eq_nil_iff, List.filter_eq_nil_iff]
  intro t ht
  have := h.line_le ht
  simp only [Bool.and_eq_true, decide_eq_true_eq, not_and]
  omega

/-- At the end of a line nothing but that end follows on the line. -/
theorem lineTokens_of_atLineEnd (h : Accounted file symbols p text tokens rejected)
    (ht : AtLineEnd text) : lineTokens tokens p.line = [] := by
  cases h with
  | eof hg => exact lineTokens_cons_of_endsLine rfl _ _
  | @token _ gap snippet rest t tokens _ hg hs hspan h =>
    obtain rfl := ht.eq_nil hg.newline_notMem
    rw [List.nil_append] at ht
    have hcount := hs.count_newline
    have hnewline : t.token = .newline := by
      by_contra hne
      rw [if_neg hne, List.count_eq_zero] at hcount
      exact hs.ne_nil (ht.eq_nil hcount)
    have hline : p.line < (p.advanceOver ([] ++ snippet)).line := by
      rw [Position.line_advanceOver, List.nil_append, hcount, if_pos hnewline]
      omega
    rw [lineTokens_cons_of_endsLine (by simp [hnewline, Token.endsLine])]
    exact h.lineTokens_of_lt hline
  | @rejected _ gap head tail rest c d _ _ hg hn hr hd h =>
    obtain rfl := ht.eq_nil hg.newline_notMem
    rw [List.nil_append] at ht
    have hnil : head ++ c :: tail = [] := ht.eq_nil hn
    simp at hnil

/-- Line by line, the tokens between those that end lines are those that begin in the line. -/
theorem tokenLines_getElem? (h : Accounted file symbols p text tokens rejected) {i : Nat}
    (hi : i ≤ text.count '\n') :
    (tokenLines (tokens.map (·.token)))[i]? = some (lineTokens tokens (p.line + i)) := by
  induction h generalizing i with
  | @eof p gap hg =>
    rw [List.count_eq_zero.2 hg.newline_notMem] at hi
    obtain rfl := Nat.le_zero.1 hi
    rw [lineTokens_cons_of_endsLine rfl]
    rfl
  | @token p gap snippet rest t tokens rejected hg hs hspan h ih =>
    have hgap := List.count_eq_zero.2 hg.newline_notMem
    have hsnippet := hs.count_newline
    have hline := p.line_advanceOver (gap ++ snippet)
    have hlo : t.span.lo.line = p.line := by
      rw [hspan, Position.line_advanceOver, hgap, Nat.add_zero]
    rw [List.count_append, hgap, Nat.zero_add] at hline
    rw [List.count_append, List.count_append, hgap, Nat.zero_add] at hi
    rw [List.map_cons, tokenLines]
    by_cases hnewline : t.token = .newline
    · have hends : t.token.endsLine := by simp [hnewline, Token.endsLine]
      rw [hsnippet, if_pos hnewline] at hi hline
      rw [if_pos hends, lineTokens_cons_of_endsLine hends]
      cases i with
      | zero => rw [Nat.add_zero, h.lineTokens_of_lt (by omega)]; rfl
      | succ i =>
        rw [List.getElem?_cons_succ, ih (by omega), hline, Nat.add_assoc, Nat.add_comm 1]
    · have hends : t.token.endsLine = false := by simp [hnewline, hs.token_ne_eof, Token.endsLine]
      rw [hsnippet, if_neg hnewline] at hi hline
      rw [if_neg (by simp [hends])]
      rw [Nat.add_zero] at hline
      obtain ⟨line, lines, hlines⟩ : ∃ line lines,
          tokenLines (tokens.map (·.token)) = line :: lines := by
        cases htl : tokenLines (tokens.map (·.token)) with
        | nil =>
          have hzero := @ih 0 (Nat.zero_le _)
          rw [htl] at hzero
          cases hzero
        | cons line lines => exact ⟨line, lines, rfl⟩
      have hih := @ih i (by omega)
      rw [hlines] at hih ⊢
      rw [hline] at hih
      cases i with
      | zero =>
        rw [Nat.add_zero] at hih ⊢
        rw [lineTokens_cons_of_eq hlo hends]
        exact congrArg (fun l => some (t.token :: l)) (Option.some.inj hih)
      | succ i =>
        rw [lineTokens_cons_of_ne (by omega)]
        exact hih
  | @rejected p gap head tail rest c d tokens rejected hg hn hr hd h ih =>
    have hline := p.line_advanceOver (gap ++ (head ++ c :: tail))
    rw [List.count_append, List.count_eq_zero.2 hg.newline_notMem, List.count_eq_zero.2 hn]
      at hline
    rw [List.count_append, List.count_append, List.count_eq_zero.2 hg.newline_notMem,
      List.count_eq_zero.2 hn] at hi
    rw [ih (by omega), hline]
    rfl

end Accounted

end Lexicon
