import Lexicon.Proofs.Lexer.TokenLines

/-!
# Rejected lines

Of a line with a rejected character only the rest yields no tokens; what stands in front of the
character has been read before.  So the line contributes no token but its end exactly if the
character belongs to the first lexeme of the line (`rejected_line_tokens`), and otherwise the line
can even bind a name (`rejected_line_binds`).
-/

namespace Lexicon

open Source Text Unicode

/-! ## The first lexeme of a line -/

/-- In front of a character beyond ASCII no lexeme ends within an identifier, or at its end. -/
theorem Lexeme.FollowedBy.not_isIdentifier {l : Lexeme} {a rest : List Char} {c : Char}
    (h : l.FollowedBy (a ++ c :: rest)) (hc : isAscii c = false) :
    ¬ IsIdentifier (l.spelling ++ a) := by
  intro hident
  have hcont := hident.forall_isIdentContinue
  generalize hmore : a ++ c :: rest = more at h
  cases h with
  | ident h hr =>
    cases a with
    | nil =>
      have hnext := hr c (by rw [← hmore]; rfl)
      exact Bool.eq_false_iff.1 hc hnext.2
    | cons e a =>
      have hnext := hr e (by rw [← hmore]; rfl)
      exact Bool.eq_false_iff.1 hnext.1 (hcont e (by simp))
  | number h hr =>
    obtain ⟨d, digits, rfl, hd⟩ := h.exists_cons
    exact Bool.eq_false_iff.1 (isIdentStart_of_isDigit hd) hident.isIdentStart
  | newline => exact absurd hident.isIdentStart (by decide)
  | punct mark => exact absurd hident.isIdentStart (by cases mark <;> decide)
  | invalid h => exact Bool.eq_false_iff.1 h.isIdentStart_eq_false hident.isIdentStart
  | eof => simp at hmore
  | @rejected head tail _ d h hd ht hr =>
    rcases h with ⟨rfl, hstart⟩ | ⟨-, hstop⟩
    · exact Bool.eq_false_iff.1 hstart hident.isIdentStart
    · exact Bool.eq_false_iff.1 hstop (hcont d (by simp [spelling]))

/-- Behind blanks, and an identifier behind them, a character beyond ASCII belongs to the first
lexeme. -/
theorem Segmented.exists_first {file : FileId} {p : Position} {blanks head rest : List Char}
    {c : Char} {segments : List Segment}
    (h : Segmented file p (blanks ++ (head ++ c :: rest)) segments)
    (hb : ∀ b ∈ blanks, isBlank b) (hh : head = [] ∨ IsIdentifier head) (hc : isAscii c = false) :
    ∃ l segments' more, segments = .place file p blanks l :: segments' ∧
      l.spelling = head ++ c :: more := by
  have hlexeme : AtLexeme (head ++ c :: rest) := by
    rcases hh with rfl | ⟨d, more, rfl, hd, -⟩
    · rintro _ ⟨⟩
      refine ⟨isBlank_of_not_isAscii hc, ?_⟩
      rintro rfl
      exact absurd hc (by decide)
    · rintro _ ⟨⟩
      exact ⟨isBlank_of_isIdentStart hd, ne_of_apply_ne hd (by decide)⟩
  generalize htext : blanks ++ (head ++ c :: rest) = text at h
  cases h with
  | eof hg =>
    rw [← List.append_nil text] at htext
    have hnil := (hg.eq_of_append_eq nofun hb hlexeme htext.symm).2
    simp at hnil
  | @cons _ _ gap rest' l segments' ht hg hl hne h =>
    rw [ht] at htext
    obtain ⟨rfl, hspelling⟩ := hg.eq_of_append_eq hl.atLexeme hb hlexeme htext.symm
    have hwithin : ∀ a, head = l.spelling ++ a → rest' = a ++ c :: rest → False := by
      rintro a rfl rfl
      rcases hh with hnil | hident
      · exact hl.spelling_ne_nil hne (List.append_eq_nil_iff.1 hnil).1
      · exact hl.not_isIdentifier hc hident
    rcases List.append_eq_append_iff.1 hspelling with ⟨a, hhead, hrest⟩ | ⟨b, hl', hrest⟩
    · exact (hwithin a hhead hrest).elim
    · cases b with
      | nil =>
        rw [List.append_nil] at hl'
        exact (hwithin [] (by rw [hl', List.append_nil]) hrest.symm).elim
      | cons d more =>
        obtain ⟨rfl, -⟩ := List.cons_eq_cons.1 hrest
        exact ⟨l, segments', more, rfl, hl'⟩

/-- In front of the character at byte `offset` stand on its line only blanks and, behind them, at
most one identifier, which ends at the character. -/
def OpensLine (text : List Char) (offset : Nat) : Prop :=
  ∃ before blanks head rest, text = before ++ (blanks ++ (head ++ rest)) ∧
    byteLength (before ++ (blanks ++ head)) = offset ∧
    (before = byteOrderMark text ∨ ∃ line, before = line ++ ['\n']) ∧
    (∀ b ∈ blanks, isBlank b) ∧ (head = [] ∨ IsIdentifier head)

/-- A text is cut behind its last line feed, or a mark in front, in one way only. -/
theorem append_inj_of_newline_notMem {mark a b u v : List Char} (hm : '\n' ∉ mark)
    (ha : a = mark ∨ ∃ line, a = line ++ ['\n']) (hb : b = mark ∨ ∃ line, b = line ++ ['\n'])
    (hu : '\n' ∉ u) (hv : '\n' ∉ v) (h : a ++ u = b ++ v) : a = b ∧ u = v := by
  -- What a longer first part has more lies within the line, and so do its last characters.
  have hlonger : ∀ {a b x : List Char}, (a = mark ∨ ∃ line, a = line ++ ['\n']) →
      (b = mark ∨ ∃ line, b = line ++ ['\n']) → '\n' ∉ x → b = a ++ x → x = [] := by
    rintro a b x ha hb hx rfl
    by_contra hne
    rcases hb with hb | ⟨line, hb⟩
    · rcases ha with rfl | ⟨line, rfl⟩
      · exact hne (List.append_right_eq_self.1 hb)
      · rw [← hb] at hm
        exact hm (by simp)
    · have hends : EndsLine (a ++ x) := .inr ⟨line, hb⟩
      rcases hends.of_append_of_ne_nil hne with rfl | ⟨line', rfl⟩
      · exact hne rfl
      · exact hx (by simp)
  rcases List.append_eq_append_iff.1 h with ⟨x, hab, huv⟩ | ⟨x, hab, huv⟩
  · have hx : '\n' ∉ x := fun hmem => hu (huv ▸ List.mem_append_left _ hmem)
    obtain rfl := hlonger ha hb hx hab
    exact ⟨by rw [hab, List.append_nil], huv⟩
  · have hx : '\n' ∉ x := fun hmem => hv (huv ▸ List.mem_append_left _ hmem)
    obtain rfl := hlonger hb ha hx hab
    exact ⟨by rw [hab, List.append_nil], huv.symm⟩

/-! ## Segments of a line -/

theorem Segment.endsLine_iff_of_token? {symbols : SymbolTable} {s : Segment} {token : Token}
    (h : s.token? symbols = some token) :
    token.endsLine ↔ s.lexeme = .newline ∨ s.lexeme = .eof := by
  cases hs : s.lexeme with
  | rejected head c tail => simp [token?, hs] at h
  | ident | number | newline | punct | invalid | eof =>
    simp only [token?, hs, Option.some.injEq] at h
    subst h
    simp [Token.endsLine]

/-- Segments are cut behind the last of the line feeds among them. -/
theorem Segment.exists_line (segments : List Segment) :
    ∃ front line, segments = front ++ line ∧
      (front = [] ∨ ∃ init s, front = init ++ [s] ∧ s.lexeme = .newline) ∧
      ∀ s ∈ line, s.lexeme ≠ .newline := by
  induction segments using List.reverseRecOn with
  | nil => exact ⟨[], [], rfl, .inl rfl, fun s hs => absurd hs List.not_mem_nil⟩
  | append_singleton segments s ih =>
    by_cases hs : s.lexeme = .newline
    · exact ⟨segments ++ [s], [], by rw [List.append_nil], .inr ⟨segments, s, rfl, hs⟩,
        fun s hs => absurd hs List.not_mem_nil⟩
    · obtain ⟨front, line, rfl, hfront, hline⟩ := ih
      refine ⟨front, line ++ [s], List.append_assoc _ _ _, hfront, fun z hz => ?_⟩
      rcases List.mem_append.1 hz with hz | hz
      · exact hline z hz
      · rwa [List.mem_singleton.1 hz]

namespace Segmented

open Segment

variable {file : FileId} {p : Position} {text : List Char} {segments : List Segment} {s : Segment}

/-- Segments up to a line feed begin in lines above. -/
theorem line_lt {init after : List Segment} {last : Segment}
    (h : Segmented file p text (init ++ [last] ++ after)) (hlast : last.lexeme = .newline)
    (hs : s ∈ init ++ [last]) :
    s.span.lo.line < (p.advanceOver ((init ++ [last]).flatMap Segment.text)).line := by
  obtain ⟨before, rest, hrest⟩ := List.append_of_mem hs
  have hmem : last ∈ s :: rest := by
    have hlast? : (init ++ [last]).getLast? = (s :: rest).getLast? := by
      rw [hrest, List.getLast?_append, List.getLast?_cons, Option.some_or]
    rw [List.getLast?_concat] at hlast?
    exact List.mem_of_getLast? hlast?.symm
  have hnewline : '\n' ∈ (s :: rest).flatMap Segment.text :=
    List.mem_flatMap.2 ⟨last, hmem, by simp [Segment.text, hlast, Lexeme.spelling]⟩
  rw [hrest, List.append_assoc, List.cons_append] at h
  obtain ⟨text', -, h'⟩ := h.exists_of_append (List.cons_ne_nil _ _)
  obtain ⟨hlo, hgap⟩ := h'.lo_span
  have := List.count_pos_iff.2 hnewline
  rw [hrest, List.flatMap_append, hlo]
  simp only [Position.line_advanceOver, List.count_append, List.count_eq_zero.2 hgap]
  omega

/-- What stands around a rejected character. -/
theorem exists_rejected {head tail : List Char} {c : Char}
    (h : Segmented file p text (s :: segments)) (hs : s.lexeme = .rejected head c tail) :
    ∃ rest, text = s.gap ++ (head ++ c :: (tail ++ rest)) ∧ (∀ b ∈ s.gap, isBlank b) ∧
      (head = [] ∨ IsIdentifier head) ∧ isAscii c = false ∧ AtLineEnd rest ∧
      ∃ q, q.line = p.line ∧ Segmented file q rest segments := by
  cases h with
  | eof hg => cases hs
  | @cons _ _ gap rest l _ ht hg hl hne h =>
    obtain rfl : l = .rejected head c tail := hs
    have hnewline := hl.newline_notMem Lexeme.noConfusion
    have hgap := hg.newline_notMem
    cases hl with
    | rejected hhead hc htail hr =>
      refine ⟨rest, ?_, hg.forall_isBlank ?_, hhead.imp And.left And.left, hc, hr, _, ?_, h⟩
      · rw [ht, Lexeme.spelling, List.append_assoc, List.cons_append]
        rfl
      · intro hend
        have hnil : head ++ c :: tail = [] := hend.eq_nil hnewline
        simp at hnil
      · rw [Position.line_advanceOver, List.count_append, List.count_eq_zero.2 hgap,
          List.count_eq_zero.2 hnewline]
        rfl

/-- A line yields no tokens in front of a rejected character if no segments are there. -/
theorem lineTokens_eq_nil_iff {line after : List Segment} {head tail : List Char} {c : Char}
    (h : Segmented file p text (line ++ s :: after)) (hline : ∀ s ∈ line, s.lexeme ≠ .newline)
    (hs : s.lexeme = .rejected head c tail) (symbols : SymbolTable) :
    lineTokens (tokensOf symbols (line ++ s :: after)) p.line = [] ↔ line = [] := by
  cases line with
  | nil =>
    obtain ⟨rest, -, -, -, -, hrest, q, hq, hafter⟩ := h.exists_rejected hs
    have htoken : s.token? symbols = none := by rw [token?_eq_none_iff, hs, Lexeme.isRejected]
    have hsymbols : s.internIn symbols = symbols := by simp only [internIn, hs]
    have hacc : Accounted file (symbolsAfter symbols after) q rest (tokensOf symbols after) _ :=
      hafter.accounted (SymbolTable.extends_refl _)
    rw [List.nil_append, tokensOf, htoken, hsymbols, ← hq]
    exact iff_of_true (hacc.lineTokens_of_atLineEnd hrest) rfl
  | cons z line =>
    obtain ⟨hlo, hgap⟩ := h.lo_span
    have heof : z.lexeme ≠ .eof := h.lexeme_ne_eof (by simp)
    have hrejected : z.lexeme.isRejected = false := by
      cases line with
      | nil => exact h.isRejected_eq_false (by simp [hs]) (by simp [hs])
      | cons z' line =>
        refine h.isRejected_eq_false (hline z' (by simp)) ?_
        obtain ⟨text', -, h'⟩ := @exists_of_append _ _ _ [z] (z' :: line ++ s :: after) h (by simp)
        exact h'.lexeme_ne_eof (by simp)
    obtain ⟨token, htoken⟩ := exists_token?_of_not_isRejected symbols hrejected
    have hends : token.endsLine = false := by
      rw [← Bool.not_eq_true, endsLine_iff_of_token? htoken, not_or]
      exact ⟨hline z List.mem_cons_self, heof⟩
    have hcons : tokensOf symbols (z :: line ++ s :: after) =
        ⟨token, z.span⟩ :: tokensOf (z.internIn symbols) (line ++ s :: after) := by
      rw [List.cons_append, tokensOf, htoken]
      rfl
    have hzline : z.span.lo.line = p.line := by
      rw [hlo, Position.line_advanceOver, List.count_eq_zero.2 hgap, Nat.add_zero]
    rw [hcons, lineTokens_cons_of_eq hzline hends]
    exact iff_of_false (List.cons_ne_nil _ _) (List.cons_ne_nil _ _)

end Segmented

open Segment

section Rejected

variable {file : SourceFile} {front line after : List Segment} {s : Segment}
  {head tail : List Char} {c : Char} (h : SegmentsOf file (front ++ (line ++ s :: after)))
  (hfront : front = [] ∨ ∃ init last, front = init ++ [last] ∧ last.lexeme = .newline)
  (hline : ∀ s ∈ line, s.lexeme ≠ .newline) (hs : s.lexeme = .rejected head c tail)

include h hfront hline hs

/-- The text from the start of the line of a rejected character on. -/
theorem exists_text_of_rejected :
    ∃ before rest, before = byteOrderMark file.text ++ front.flatMap Segment.text ∧
      file.text = before ++ (line.flatMap Segment.text ++ (s.gap ++ (head ++ c :: rest))) ∧
      (before = byteOrderMark file.text ∨ ∃ above, before = above ++ ['\n']) ∧
      '\n' ∉ line.flatMap Segment.text ++ (s.gap ++ head) ∧ (∀ b ∈ s.gap, isBlank b) ∧
      (head = [] ∨ IsIdentifier head) ∧ isAscii c = false ∧
      (s.charSpan head c).lo = Position.start.advanceOver
        (before ++ (line.flatMap Segment.text ++ (s.gap ++ head))) ∧
      Segmented file.id (Position.start.advanceOver before)
        (line.flatMap Segment.text ++ (s.gap ++ (head ++ c :: rest))) (line ++ s :: after) := by
  have hmark := byteOrderMark_append file.text
  obtain ⟨text₁, htext₁, h₁⟩ := h.exists_of_append (by simp)
  obtain ⟨text₂, rfl, h₂⟩ := h₁.exists_of_append (List.cons_ne_nil _ _)
  obtain ⟨rest, rfl, hgap, hhead, hc, -⟩ := h₂.exists_rejected hs
  obtain ⟨hlo, hgapn⟩ := h₂.lo_span
  refine ⟨byteOrderMark file.text ++ front.flatMap Segment.text, tail ++ rest, rfl, ?_, ?_, ?_,
    hgap, hhead, hc, ?_, ?_⟩
  · rw [List.append_assoc, ← htext₁, hmark]
  · rcases hfront with rfl | ⟨init, last, rfl, hlast⟩
    · exact .inl (List.append_nil _)
    · refine .inr ⟨byteOrderMark file.text ++ (init.flatMap Segment.text ++ last.gap), ?_⟩
      simp [Segment.text, hlast, Lexeme.spelling]
  · have hlinen := h.newline_notMem_flatMap (fun z hz => by simp [hz]) hline
    simp only [List.mem_append, not_or]
    exact ⟨hlinen, hgapn, newline_notMem_of_isIdentifier hhead⟩
  · simp only [charSpan, hlo, Position.advanceOver_append]
  · rw [Position.advanceOver_append]
    exact h₁

/-- A rejected line yields no tokens exactly if the rejected character opens it. -/
theorem lineTokens_rejected_eq_nil_iff (symbols : SymbolTable) :
    lineTokens (tokensOf symbols (front ++ (line ++ s :: after))) (s.charSpan head c).lo.line = [] ↔
      OpensLine file.text (s.charSpan head c).lo.offset := by
  obtain ⟨before, rest, hb, htext, hbefore, hnewline, hgap, hhead, hc, hlo, hsegments⟩ :=
    exists_text_of_rejected h hfront hline hs
  have hloline : (s.charSpan head c).lo.line = (Position.start.advanceOver before).line := by
    rw [hlo, Position.advanceOver_append, Position.line_advanceOver, List.count_eq_zero.2 hnewline,
      Nat.add_zero]
  have habove : lineTokens (tokensOf symbols front) (s.charSpan head c).lo.line = [] := by
    rw [lineTokens, List.map_eq_nil_iff, List.filter_eq_nil_iff]
    intro t ht
    obtain ⟨z, hz, hspan⟩ := exists_of_mem_tokensOf ht
    rcases hfront with rfl | ⟨init, last, rfl, hlast⟩
    · cases hz
    · have hlt := h.line_lt hlast hz
      rw [← Position.advanceOver_append, ← hb, ← hloline, ← hspan] at hlt
      simp [Nat.ne_of_lt hlt]
  rw [tokensOf_append, lineTokens_append, habove, List.nil_append, hloline,
    hsegments.lineTokens_eq_nil_iff hline hs, hlo, Position.offset_advanceOver_start]
  constructor
  · rintro rfl
    exact ⟨before, s.gap, head, c :: rest, htext, rfl, hbefore, hgap, hhead⟩
  · rintro ⟨before', blanks, head', rest', htext', hoffset, hbefore', hblanks, hhead'⟩
    have hwhole : before' ++ (blanks ++ head') ++ rest' =
        before ++ (line.flatMap Segment.text ++ (s.gap ++ head)) ++ c :: rest := by
      simp only [List.append_assoc] at htext htext' ⊢
      rw [← htext, ← htext']
    have hnewline' : '\n' ∉ blanks ++ head' := by
      rw [List.mem_append, not_or]
      exact ⟨fun hmem => absurd (hblanks _ hmem) (by decide), newline_notMem_of_isIdentifier hhead'⟩
    obtain ⟨hfirst, rfl⟩ := append_inj_of_byteLength hwhole hoffset
    obtain ⟨rfl, hmiddle⟩ := append_inj_of_newline_notMem (newline_notMem_byteOrderMark file.text)
      hbefore' hbefore hnewline' hnewline hfirst
    by_contra hne
    obtain ⟨z, line, rfl⟩ := List.exists_cons_of_ne_nil hne
    have hregion : (z :: line).flatMap Segment.text ++ (s.gap ++ (head ++ c :: rest)) =
        blanks ++ (head' ++ c :: rest) := by
      rw [← List.append_assoc s.gap, ← List.append_assoc, ← hmiddle, List.append_assoc]
    rw [hregion] at hsegments
    obtain ⟨l, segments, more, hcons, hspelling⟩ := hsegments.exists_first hblanks hhead' hc
    -- The first segment would reach beyond the rejected character.
    have hz : z.text = blanks ++ (head' ++ c :: more) := by
      rw [List.cons_append] at hcons
      rw [(List.cons_eq_cons.1 hcons).1, Segment.text, ← hspelling]
      rfl
    have hlength := congrArg List.length hmiddle
    rw [List.flatMap_cons, hz] at hlength
    simp only [List.length_append, List.length_cons] at hlength
    omega

/-- The line of a rejected character is one of the lines of the text. -/
theorem line_rejected_le :
    1 ≤ (s.charSpan head c).lo.line ∧
      (s.charSpan head c).lo.line - 1 ≤ (withoutMark file.text).count '\n' := by
  obtain ⟨before, rest, -, htext, -, -, -, -, -, hlo, -⟩ :=
    exists_text_of_rejected h hfront hline hs
  have hfile : file.text.count '\n' = (withoutMark file.text).count '\n' := by
    conv_lhs => rw [← byteOrderMark_append file.text, List.count_append,
      List.count_eq_zero.2 (newline_notMem_byteOrderMark _), Nat.zero_add]
  have hstart : Position.start.line = 1 := rfl
  rw [← hfile, htext, hlo, Position.line_advanceOver, hstart]
  simp only [List.count_append]
  omega

end Rejected

/-- What a line contributes on which a character is rejected, under the policy that skips the rest
of such lines: the tokens that begin in the line are what assignments see of it, and there are none
exactly if the character opens its line. -/
theorem rejected_line_tokens (file : SourceFile) (options : LexOptions) (symbols : SymbolTable)
    (log : DiagnosticLog) :
    ∃ tokens lx reports, tokenize file options .skipLine symbols log = (.ok tokens, lx) ∧
      lx.log = log.emitAll reports ∧
      ∀ d ∈ reports, d.isRejection →
        (tokenLines (tokens.toList.map (·.token)))[d.span.lo.line - 1]? =
            some (lineTokens tokens.toList d.span.lo.line) ∧
          (lineTokens tokens.toList d.span.lo.line = [] ↔
            OpensLine file.text d.span.lo.offset) := by
  obtain ⟨segments, h⟩ := exists_segmentsOf file
  obtain ⟨lx, hrun, hsymbols, hlog⟩ := tokenize_skipLine options symbols log h
  refine ⟨_, lx, _, hrun, hlog, fun d hd hreject => ?_⟩
  have hd : d ∈ segments.filterMap rejection? := by
    rw [← filter_isRejection_diagnosticsOf options]
    exact List.mem_filter.2 ⟨hd, hreject⟩
  obtain ⟨s, hs, hrejection⟩ := List.mem_filterMap.1 hd
  have hrejected : s.lexeme.isRejected := by
    by_contra hs
    rw [(rejection?_eq_none_iff s).2 (by simpa using hs)] at hrejection
    cases hrejection
  obtain ⟨head, c, tail, hl⟩ := exists_eq_rejected hrejected
  obtain rfl : Diagnostic.invalidChar c (s.charSpan head c) = d := by
    simpa [rejection?, hl] using hrejection
  obtain ⟨before, after, rfl⟩ := List.append_of_mem hs
  obtain ⟨front, line, rfl, hfront, hline⟩ := exists_line before
  rw [List.append_assoc] at h ⊢
  refine ⟨?_, lineTokens_rejected_eq_nil_iff h hfront hline hl symbols⟩
  obtain ⟨hone, hle⟩ := line_rejected_le h hfront hline hl
  have hacc := h.accounted (SymbolTable.extends_refl (symbolsAfter symbols _))
  have hstart : (Position.start.advanceOver (byteOrderMark file.text)).line = 1 := by
    rw [Position.line_advanceOver, List.count_eq_zero.2 (newline_notMem_byteOrderMark _)]
    rfl
  have hlines := hacc.tokenLines_getElem? hle
  rw [hstart, Nat.add_sub_cancel' hone] at hlines
  exact hlines

/-- A line that is rejected behind an assignment still binds the name. -/
theorem rejected_line_binds :
    ∃ (file : SourceFile) (tokens : Array SpannedToken) (lx : Lexer) (d : Diagnostic),
      file.text = "x = 1 €\n".toList ∧
      tokenize file {} .skipLine {} {} = (.ok tokens, lx) ∧ lx.log.entries = #[d] ∧
      d.isRejection ∧ d.span.lo.line = 1 ∧
      lineTokens tokens.toList 1 ≠ [] ∧
      (bindAssignments (tokens.toList.map (·.token))).bindings = [(⟨0⟩, 1)] := by
  have hok : (tokenize { id := 0, name := "a", text := "x = 1 €\n".toList } {} .skipLine {} {}).1 =
      .ok #[⟨.ident ⟨⟨0⟩, ⟨⟨0, 1, 1⟩, ⟨1, 1, 2⟩, 0⟩⟩, ⟨⟨0, 1, 1⟩, ⟨1, 1, 2⟩, 0⟩⟩,
        ⟨.punct .equal, ⟨⟨2, 1, 3⟩, ⟨3, 1, 4⟩, 0⟩⟩, ⟨.number 1, ⟨⟨4, 1, 5⟩, ⟨5, 1, 6⟩, 0⟩⟩,
        ⟨.newline, ⟨⟨9, 1, 8⟩, ⟨10, 2, 1⟩, 0⟩⟩, ⟨.eof, ⟨⟨10, 2, 1⟩, ⟨10, 2, 1⟩, 0⟩⟩] := by
    cbv
  have hlog : (tokenize { id := 0, name := "a", text := "x = 1 €\n".toList } {} .skipLine {}
      {}).2.log.entries = #[.invalidChar '€' ⟨⟨6, 1, 7⟩, ⟨9, 1, 8⟩, 0⟩] := by
    cbv
  exact ⟨_, _, _, _, rfl, Prod.ext hok rfl, hlog, rfl, rfl, by decide, rfl⟩

end Lexicon
