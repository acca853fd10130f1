import Mathlib
import Lexicon.Proofs.Lexer.Run

/-!
# Tokens account for the text

The tokens of a file and the characters that were rejected account for every character of its text
(`Accounted`): it is gaps of blanks and comments, snippets that are spelled as the tokens ask for,
and, if rejected lines are skipped, the rests of such lines.  What is said of tokens and their spans
follows by induction over the text (`tokenize_lossless`).
-/

namespace Lexicon

open Source Text Unicode

/-- The snippets of which a token, other than the end of the text, can have been made. -/
inductive SpelledBy (symbols : SymbolTable) : SpannedToken → List Char → Prop
  | ident {name : Symbol} {raw : List Char} (h : IsIdentifier raw)
    (hn : symbols.textOf name = nameOf raw) (span : Span) :
    SpelledBy symbols ⟨.ident ⟨name, span⟩, span⟩ raw
  | number {literal : List Char} (h : Numeral.IsLiteral literal) (span : Span) :
    SpelledBy symbols ⟨.number ((Numeral.value? literal).getD Numeral.largest), span⟩ literal
  | newline (span : Span) : SpelledBy symbols ⟨.newline, span⟩ ['\n']
  | punct (mark : Punctuation) (span : Span) : SpelledBy symbols ⟨.punct mark, span⟩ [mark.char]
  | invalid {c : Char} (h : IsStray c) (span : Span) : SpelledBy symbols ⟨.invalid c, span⟩ [c]

/-- From position `p` on, `text` is the snippets of `tokens` and gaps between them.  Behind a gap
the rest of a line can be missing, from an identifier that cannot go on; `rejected` reports the
characters at which that is so. -/
inductive Accounted (file : FileId) (symbols : SymbolTable) :
    Position → List Char → List SpannedToken → List Diagnostic → Prop
  | eof {p : Position} {gap : List Char} (hg : IsTrivia gap []) :
    Accounted file symbols p gap [⟨.eof, ⟨p.advanceOver gap, p.advanceOver gap, file⟩⟩] []
  | token {p : Position} {gap snippet rest : List Char} {t : SpannedToken}
    {tokens : List SpannedToken} {rejected : List Diagnostic}
    (hg : IsTrivia gap (snippet ++ rest)) (ht : SpelledBy symbols t snippet)
    (hs : t.span = ⟨p.advanceOver gap, p.advanceOver (gap ++ snippet), file⟩)
    (h : Accounted file symbols (p.advanceOver (gap ++ snippet)) rest tokens rejected) :
    Accounted file symbols p (gap ++ (snippet ++ rest)) (t :: tokens) rejected
  | rejected {p : Position} {gap head tail rest : List Char} {c : Char} {d : Diagnostic}
    {tokens : List SpannedToken} {rejected : List Diagnostic}
    (hg : IsTrivia gap (head ++ c :: tail ++ rest)) (hn : '\n' ∉ head ++ c :: tail)
    (hr : AtLineEnd rest)
    (hd : d = .invalidChar c
      ⟨p.advanceOver (gap ++ head), p.advanceOver (gap ++ (head ++ [c])), file⟩)
    (h : Accounted file symbols (p.advanceOver (gap ++ (head ++ c :: tail))) rest tokens
      rejected) :
    Accounted file symbols p (gap ++ (head ++ c :: tail ++ rest)) tokens (d :: rejected)

variable {file : FileId} {symbols : SymbolTable} {p : Position} {text : List Char}
  {tokens : List SpannedToken} {rejected : List Diagnostic} {t : SpannedToken}

theorem SpelledBy.ne_nil {snippet : List Char} (h : SpelledBy symbols t snippet) :
    snippet ≠ [] := by
  cases h with
  | ident h hn =>
    obtain ⟨c, raw, rfl, -⟩ := h
    exact List.cons_ne_nil _ _
  | number h =>
    obtain ⟨c, literal, rfl, -⟩ := h.exists_cons
    exact List.cons_ne_nil _ _
  | newline | punct | invalid => exact List.cons_ne_nil _ _

theorem SpelledBy.token_ne_eof {snippet : List Char} (h : SpelledBy symbols t snippet) :
    t.token ≠ .eof := by
  cases h <;> exact Token.noConfusion

/-- Among the snippets only that of a line feed holds one. -/
theorem SpelledBy.count_newline {snippet : List Char} (h : SpelledBy symbols t snippet) :
    snippet.count '\n' = if t.token = .newline then 1 else 0 := by
  cases h with
  | ident h hn => exact List.count_eq_zero.2 h.newline_notMem
  | number h => exact List.count_eq_zero.2 h.newline_notMem
  | newline => rfl
  | punct mark => cases mark <;> rfl
  | invalid h =>
    rw [List.count_singleton, if_neg (by simpa using h.ne_newline)]
    rfl

namespace Segment

theorem spelledBy_token? {s : Segment} {token : Token} {rest : List Char}
    {symbols symbols' : SymbolTable} (hl : s.lexeme.FollowedBy rest) (hne : s.lexeme ≠ .eof)
    (ht : s.token? symbols = some token) (hx : symbols'.Extends (s.internIn symbols)) :
    SpelledBy symbols' ⟨token, s.span⟩ s.lexeme.spelling := by
  unfold token? at ht
  unfold internIn at hx
  cases hs : s.lexeme with
  | ident raw =>
    simp only [hs, Option.some.injEq] at ht hx hl
    subst ht
    cases hl with
    | ident h hr => exact .ident h (SymbolTable.textOf_intern_of_extends hx) _
  | number literal =>
    simp only [hs, Option.some.injEq] at ht hl
    subst ht
    cases hl with
    | number h hr => exact .number h _
  | newline =>
    simp only [hs, Option.some.injEq] at ht
    subst ht
    exact .newline _
  | punct mark =>
    simp only [hs, Option.some.injEq] at ht
    subst ht
    exact .punct mark _
  | invalid c =>
    simp only [hs, Option.some.injEq] at ht hl
    subst ht
    cases hl with
    | invalid h => exact .invalid h _
  | eof => exact absurd hs hne
  | rejected head c tail => simp [hs] at ht

end Segment

open Segment

/-- The tokens of segments and what was rejected of them account for the text. -/
theorem Segmented.accounted {segments : List Segment} {symbols symbols' : SymbolTable}
    (h : Segmented file p text segments)
    (hx : symbols'.Extends (symbolsAfter symbols segments)) :
    Accounted file symbols' p text (tokensOf symbols segments) (segments.filterMap rejection?) := by
  induction h generalizing symbols with
  | @eof p text hg =>
    have heof : (Segment.place file p text .eof).span =
        ⟨p.advanceOver text, p.advanceOver text, file⟩ := by
      simp only [Segment.place, Lexeme.spelling, List.append_nil]
    have hacc : Accounted file symbols' p text
        [⟨.eof, ⟨p.advanceOver text, p.advanceOver text, file⟩⟩] [] := .eof hg
    rw [← heof] at hacc
    exact hacc
  | @cons p text gap rest l segments ht hg hl hne h ih =>
    subst ht
    have hs : symbols'.Extends ((Segment.place file p gap l).internIn symbols) :=
      hx.trans (extends_symbolsAfter _ segments)
    cases htoken : (Segment.place file p gap l).token? symbols with
    | some token =>
      have hspelled := spelledBy_token? (s := .place file p gap l) hl hne htoken hs
      have hnone : (Segment.place file p gap l).rejection? = none := by
        rw [rejection?_eq_none_iff]
        by_contra hrej
        rw [(token?_eq_none_iff _ _).2 (by simpa using hrej)] at htoken
        cases htoken
      rw [tokensOf, htoken, List.filterMap_cons_none hnone]
      exact .token hg hspelled rfl (ih hx)
    | none =>
      obtain ⟨head, c, tail, rfl⟩ := exists_eq_rejected ((token?_eq_none_iff _ _).1 htoken)
      have hsome : (Segment.place file p gap (.rejected head c tail)).rejection? =
          some (.invalidChar c
            ⟨p.advanceOver (gap ++ head), p.advanceOver (gap ++ (head ++ [c])), file⟩) := by
        simp only [rejection?, Segment.place, charSpan, Position.advanceOver_append]
      rw [tokensOf, htoken, List.filterMap_cons_some hsome]
      have hn := hl.newline_notMem Lexeme.noConfusion
      cases hl with
      | rejected hhead hc ht hr => exact .rejected hg hn hr rfl (ih hx)

namespace Accounted

/-- A token stands where its span says, and is spelled there. -/
theorem exists_of_mem (h : Accounted file symbols p text tokens rejected) (ht : t ∈ tokens) :
    ∃ before snippet after, text = before ++ snippet ++ after ∧
      t.span = ⟨p.advanceOver before, p.advanceOver (before ++ snippet), file⟩ ∧
      (t.token ≠ .eof → SpelledBy symbols t snippet) := by
  induction h with
  | @eof p gap hg =>
    obtain rfl := List.mem_singleton.1 ht
    refine ⟨gap, [], [], ?_, ?_, fun hne => absurd rfl hne⟩
    · rw [List.append_nil, List.append_nil]
    · rw [List.append_nil]
  | @token p gap snippet rest u tokens rejected hg hu hs h ih =>
    rcases List.mem_cons.1 ht with rfl | ht
    · exact ⟨gap, snippet, rest, (List.append_assoc _ _ _).symm, hs, fun _ => hu⟩
    · obtain ⟨before, part, after, rfl, hspan, hpart⟩ := ih ht
      refine ⟨gap ++ snippet ++ before, part, after, ?_, ?_, hpart⟩
      · simp only [List.append_assoc]
      · rw [hspan, ← Position.advanceOver_append, ← Position.advanceOver_append,
          List.append_assoc (gap ++ snippet)]
  | @rejected p gap head tail rest c d tokens rejected hg hn hr hd h ih =>
    obtain ⟨before, part, after, rfl, hspan, hpart⟩ := ih ht
    refine ⟨gap ++ (head ++ c :: tail) ++ before, part, after, ?_, ?_, hpart⟩
    · simp only [List.append_assoc]
    · rw [hspan, ← Position.advanceOver_append, ← Position.advanceOver_append,
        List.append_assoc (gap ++ (head ++ c :: tail))]

theorem offset_le (h : Accounted file symbols p text tokens rejected) (ht : t ∈ tokens) :
    p.offset ≤ t.span.lo.offset := by
  obtain ⟨before, snippet, after, -, hspan, -⟩ := h.exists_of_mem ht
  rw [hspan]
  exact Position.offset_le_advanceOver p before

theorem line_le (h : Accounted file symbols p text tokens rejected) (ht : t ∈ tokens) :
    p.line ≤ t.span.lo.line := by
  obtain ⟨before, snippet, after, -, hspan, -⟩ := h.exists_of_mem ht
  rw [hspan, Position.line_advanceOver]
  exact Nat.le_add_right _ _

/-- Every token ends before the next one begins. -/
theorem pairwise (h : Accounted file symbols p text tokens rejected) :
    tokens.Pairwise fun t u => t.span.hi.offset ≤ u.span.lo.offset := by
  induction h with
  | eof hg => exact List.pairwise_singleton _ _
  | token hg ht hs h ih =>
    refine List.pairwise_cons.2 ⟨fun u hu => ?_, ih⟩
    rw [hs]
    exact h.offset_le hu
  | rejected hg hn hr hd h ih => exact ih

/-- Every line feed of the text is a token, and no other token is one. -/
theorem countP_newline (h : Accounted file symbols p text tokens rejected) :
    tokens.countP (·.token = .newline) = text.count '\n' := by
  induction h with
  | eof hg => exact (List.count_eq_zero.2 hg.newline_notMem).symm
  | token hg ht hs h ih =>
    rw [List.countP_cons, ih, List.count_append, List.count_append, ht.count_newline,
      List.count_eq_zero.2 hg.newline_notMem, Nat.zero_add, Nat.add_comm]
    simp only [decide_eq_true_eq]
  | rejected hg hn hr hd h ih =>
    rw [ih, List.count_append, List.count_append, List.count_eq_zero.2 hn,
      List.count_eq_zero.2 hg.newline_notMem, Nat.zero_add, Nat.zero_add]

/-- The end of the text is the last token, and no other. -/
theorem exists_eof (h : Accounted file symbols p text tokens rejected) :
    ∃ front span, tokens = front ++ [⟨.eof, span⟩] ∧ ∀ t ∈ front, t.token ≠ .eof := by
  induction h with
  | eof hg => exact ⟨[], _, rfl, fun t ht => absurd ht List.not_mem_nil⟩
  | token hg ht hs h ih =>
    obtain ⟨front, span, rfl, hfront⟩ := ih
    exact ⟨_ :: front, span, rfl, List.forall_mem_cons.2 ⟨ht.token_ne_eof, hfront⟩⟩
  | rejected hg hn hr hd h ih => exact ih

end Accounted

/-- The tokens of a file, with the names in `symbols`, and the rejections among its reports account
for its text. -/
structure Lossless (file : SourceFile) (symbols : SymbolTable) (tokens : List SpannedToken)
    (rejected : List Diagnostic) : Prop where
  text_eq : file.text = byteOrderMark file.text ++ withoutMark file.text
  accounted : Accounted file.id symbols (Position.start.advanceOver (byteOrderMark file.text))
    (withoutMark file.text) tokens rejected
  ordered : tokens.Pairwise fun t u => t.span.hi.offset ≤ u.span.lo.offset
  /-- The line table has the positions of every span. -/
  positions : ∀ t ∈ tokens, t.span.file = file.id ∧
    file.positionAt t.span.lo.offset = t.span.lo ∧ file.positionAt t.span.hi.offset = t.span.hi
  /-- Every span but the last covers some of the text, and it spells the token. -/
  spelled : ∀ t ∈ tokens, t.token ≠ .eof → t.span.lo.offset < t.span.hi.offset ∧
    ∃ snippet, file.snippet t.span = .ok snippet ∧ SpelledBy symbols t snippet
  newlines : tokens.countP (·.token = .newline) = file.text.count '\n'
  eof_last : ∃ front span, tokens = front ++ [⟨.eof, span⟩] ∧ ∀ t ∈ front, t.token ≠ .eof

theorem lossless_of_accounted {file : SourceFile} {symbols : SymbolTable}
    (h : Accounted file.id symbols (Position.start.advanceOver (byteOrderMark file.text))
      (withoutMark file.text) tokens rejected) :
    Lossless file symbols tokens rejected := by
  have htext := (byteOrderMark_append file.text).symm
  -- Counted from the start of the file, the byte order mark is part of what is in front.
  have hmem : ∀ t ∈ tokens, ∃ before snippet after, file.text = before ++ snippet ++ after ∧
      t.span = ⟨Position.start.advanceOver before, Position.start.advanceOver (before ++ snippet),
        file.id⟩ ∧ (t.token ≠ .eof → SpelledBy symbols t snippet) := by
    intro t ht
    obtain ⟨before, snippet, after, hbody, hspan, hspelled⟩ := h.exists_of_mem ht
    refine ⟨byteOrderMark file.text ++ before, snippet, after, ?_, ?_, hspelled⟩
    · rw [List.append_assoc, List.append_assoc, ← List.append_assoc before, ← hbody]
      exact htext
    · rw [hspan, ← Position.advanceOver_append, ← Position.advanceOver_append, List.append_assoc]
  refine ⟨htext, h, h.pairwise, fun t ht => ?_, fun t ht hne => ?_, ?_, h.exists_eof⟩
  · obtain ⟨before, snippet, after, hfile, hspan, -⟩ := hmem t ht
    rw [hspan]
    refine ⟨rfl, ?_, ?_⟩
    · rw [Position.offset_advanceOver_start,
        file.positionAt_byteLength (hfile.trans (List.append_assoc _ _ _))]
    · rw [Position.offset_advanceOver_start, file.positionAt_byteLength hfile]
  · obtain ⟨before, snippet, after, hfile, hspan, hspelled⟩ := hmem t ht
    have hlo : t.span.lo.offset = byteLength before := by
      rw [hspan, Position.offset_advanceOver_start]
    have hhi : t.span.hi.offset = byteLength (before ++ snippet) := by
      rw [hspan, Position.offset_advanceOver_start]
    have hpos : 0 < byteLength snippet := byteLength_pos (hspelled hne).ne_nil
    have hlen := byteLength_append before snippet
    exact ⟨by omega, snippet, file.snippet_eq_ok hfile hlo hhi, hspelled hne⟩
  · calc tokens.countP (·.token = .newline)
        = (withoutMark file.text).count '\n' := h.countP_newline
      _ = (byteOrderMark file.text ++ withoutMark file.text).count '\n' := by
          rw [List.count_append, List.count_eq_zero.2 (newline_notMem_byteOrderMark _),
            Nat.zero_add]
      _ = file.text.count '\n' := by rw [byteOrderMark_append]

/-- Whenever tokenizing a file succeeds, every token but the end of the text is spelled at its
span. -/
theorem exists_spelledBy {file : SourceFile} {options : LexOptions} {policy : RecoveryPolicy}
    {symbols : SymbolTable} {log : DiagnosticLog} {tokens : Array SpannedToken} {lx : Lexer}
    (h : tokenize file options policy symbols log = (.ok tokens, lx)) {t : SpannedToken}
    (ht : t ∈ tokens.toList) (hne : t.token ≠ .eof) :
    ∃ snippet, file.snippet t.span = .ok snippet ∧ SpelledBy lx.symbols t snippet := by
  obtain ⟨segments, hsegments, -, htokens, hsymbols, -⟩ := exists_of_tokenize_eq_ok h
  have hlossless := lossless_of_accounted
    (hsegments.accounted (SymbolTable.extends_refl (symbolsAfter symbols segments)))
  rw [htokens] at ht
  rw [hsymbols]
  exact (hlossless.spelled t ht hne).2

/-- Whenever tokenizing a file succeeds, its tokens and the rejections that it reports account for
the text; without recovery nothing is rejected. -/
theorem tokenize_lossless {file : SourceFile} {options : LexOptions} {policy : RecoveryPolicy}
    {symbols : SymbolTable} {log : DiagnosticLog} {tokens : Array SpannedToken} {lx : Lexer}
    (h : tokenize file options policy symbols log = (.ok tokens, lx)) :
    ∃ reports, lx.log = log.emitAll reports ∧
      Lossless file lx.symbols tokens.toList (reports.filter Diagnostic.isRejection) ∧
      (policy = .abort → reports.filter Diagnostic.isRejection = []) := by
  obtain ⟨segments, hsegments, habort, htokens, hsymbols, hlog⟩ := exists_of_tokenize_eq_ok h
  refine ⟨diagnosticsOf options segments, hlog, ?_, fun hpolicy => ?_⟩
  · rw [filter_isRejection_diagnosticsOf, htokens, hsymbols]
    exact lossless_of_accounted (hsegments.accounted (SymbolTable.extends_refl _))
  · rw [List.filter_eq_nil_iff]
    intro d hd
    simp [isRejection_of_mem_diagnosticsOf (habort hpolicy) hd]

/-- A file with a byte order mark, a comment and a rejected line. -/
theorem tokenize_lossless_marked :
    ∃ (file : SourceFile) (tokens : Array SpannedToken) (lx : Lexer) (reports : List Diagnostic),
      file.text = "\uFEFFa\t1_0 # ½\r\n€ b\n".toList ∧
      tokenize file {} .skipLine {} {} = (.ok tokens, lx) ∧
      tokens.toList.map (·.token) = [.ident ⟨⟨0⟩, ⟨⟨3, 1, 2⟩, ⟨4, 1, 3⟩, 0⟩⟩, .number 10, .newline,
        .newline, .eof] ∧
      lx.log = ({} : DiagnosticLog).emitAll reports ∧
      Lossless file lx.symbols tokens.toList (reports.filter Diagnostic.isRejection) := by
  have hok : (tokenize { id := 0, name := "a", text := "\uFEFFa\t1_0 # ½\r\n€ b\n".toList } {}
      .skipLine {} {}).1 = .ok
        #[⟨.ident ⟨⟨0⟩, ⟨⟨3, 1, 2⟩, ⟨4, 1, 3⟩, 0⟩⟩, ⟨⟨3, 1, 2⟩, ⟨4, 1, 3⟩, 0⟩⟩,
          ⟨.number 10, ⟨⟨5, 1, 4⟩, ⟨8, 1, 7⟩, 0⟩⟩, ⟨.newline, ⟨⟨14, 1, 12⟩, ⟨15, 2, 1⟩, 0⟩⟩,
          ⟨.newline, ⟨⟨20, 2, 4⟩, ⟨21, 3, 1⟩, 0⟩⟩, ⟨.eof, ⟨⟨21, 3, 1⟩, ⟨21, 3, 1⟩, 0⟩⟩] := by
    cbv
  obtain ⟨reports, hlog, hlossless, -⟩ := tokenize_lossless (Prod.ext hok rfl)
  exact ⟨_, _, _, reports, rfl, Prod.ext hok rfl, rfl, hlog, hlossless⟩

end Lexicon
