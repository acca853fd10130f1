import Lexicon.Proofs.Lexer.Relocation

/-!
# Tokenizing line by line

Where rejected lines are skipped, nothing of a line bears on the lines behind it.  Whole lines in
front of a text yield what they yield alone, and then the text yields what it yields alone, moved
behind the lines (`yields_append`).
-/

namespace Lexicon

open Source Text

def NamedToken.moveTo (file : FileId) (offset lines : Nat) : NamedToken → NamedToken
  | ident name span => ident name (span.moveTo file offset lines)
  | token => token

/-- Tokens in another file, `offset` bytes and `lines` lines further. -/
def moveTokensTo (file : FileId) (offset lines : Nat) (tokens : List (NamedToken × Span)) :
    List (NamedToken × Span) :=
  tokens.map fun t => (t.1.moveTo file offset lines, t.2.moveTo file offset lines)

/-- Diagnostics about another file, `offset` bytes and `lines` lines further. -/
def moveReportsTo (file : FileId) (offset lines : Nat) (reports : List Diagnostic) :
    List Diagnostic :=
  reports.map fun d => { d with span := d.span.moveTo file offset lines }

/-- The relocation to another file, `offset` bytes and `lines` lines further. -/
def Relocation.shift (file : FileId) (offset lines : Nat) : Relocation where
  file
  filler := []
  place := Position.shift offset lines
  isBlank_filler := isBlank_of_mem_nil
  place_advance p c _ := (Position.shift_advance offset lines p c).symm
  place_newline p _ := (Position.shift_advance offset lines p '\n').symm

namespace Segment

variable (file : FileId) (offset lines : Nat)

theorem charSpan_moveTo (s : Segment) (head : List Char) (c : Char) :
    (s.moveTo file offset lines).charSpan head c =
      (s.charSpan head c).moveTo file offset lines := by
  simp only [charSpan, moveTo, Span.moveTo, Position.shift_advanceOver]

theorem puts_moveTo (s : Segment) :
    (Relocation.shift file offset lines).Puts s (s.moveTo file offset lines) := by
  cases hl : s.lexeme with
  | newline => exact .newline hl hl rfl
  | rejected head c tail => exact .rejected hl hl (charSpan_moveTo file offset lines s head c)
  | ident | number | punct | invalid | eof =>
    refine .inLine ?_ ?_ rfl rfl
    · rw [hl]
      exact Lexeme.noConfusion
    · rw [hl]
      rfl

theorem forall₂_puts_moveTo (segments : List Segment) :
    List.Forall₂ (Relocation.shift file offset lines).Puts segments
      (segments.map (·.moveTo file offset lines)) := by
  rw [List.forall₂_map_right_iff]
  exact List.forall₂_same.2 fun s _ => puts_moveTo file offset lines s

theorem namedOf_moveTo (segments : List Segment) :
    namedOf (segments.map (·.moveTo file offset lines)) =
      moveTokensTo file offset lines (namedOf segments) := by
  rw [Relocation.namedOf_of_puts (forall₂_puts_moveTo file offset lines segments), moveTokensTo]
  refine List.map_congr_left fun t _ => ?_
  obtain ⟨token, span⟩ := t
  cases token <;> rfl

theorem diagnosticsOf_moveTo (options : LexOptions) (segments : List Segment) :
    diagnosticsOf options (segments.map (·.moveTo file offset lines)) =
      moveReportsTo file offset lines (diagnosticsOf options segments) :=
  Relocation.diagnosticsOf_of_puts (forall₂_puts_moveTo file offset lines segments) options

end Segment

open Segment

variable {file₁ file₂ file : SourceFile}

/-- The segments of whole lines and of a text make up those of the lines and the text. -/
theorem SegmentsOf.append {segments₁ segments₂ : List Segment} (h₁ : SegmentsOf file₁ segments₁)
    (h₂ : SegmentsOf file₂ segments₂) (hlines : file₁.text.getLast? = some '\n')
    (hmark : file₂.text.head? ≠ some '\uFEFF') (htext : file.text = file₁.text ++ file₂.text) :
    SegmentsOf file ((segments₁.map (·.moveTo file.id 0 0)).dropLast ++
      segments₂.map (·.moveTo file.id (byteLength file₁.text) (file₁.text.count '\n'))) := by
  obtain ⟨line, hline⟩ : ∃ line, file₁.text = line ++ ['\n'] :=
    List.getLast?_eq_some_iff.1 hlines
  have hhead : file.text.head? = file₁.text.head? := by
    rw [htext, hline]
    cases line <;> rfl
  have hmark₁ : byteOrderMark file.text = byteOrderMark file₁.text := by
    rw [byteOrderMark, hhead, byteOrderMark]
  have hsplit := byteOrderMark_append file₁.text
  have hbody : withoutMark file.text = withoutMark file₁.text ++ file₂.text := by
    have hcancel : byteOrderMark file.text ++ withoutMark file.text =
        byteOrderMark file.text ++ (withoutMark file₁.text ++ file₂.text) := by
      rw [byteOrderMark_append, hmark₁, ← List.append_assoc, hsplit, htext]
    exact List.append_cancel_left hcancel
  have hends : EndsLine (withoutMark file₁.text) := by
    have hends : EndsLine (byteOrderMark file₁.text ++ withoutMark file₁.text) :=
      .inr ⟨line, by rw [hsplit, hline]⟩
    refine hends.of_append_of_ne_nil fun hnil => ?_
    have hmem : '\n' ∈ byteOrderMark file₁.text := by
      rw [hnil, List.append_nil] at hsplit
      rw [hsplit, hline]
      exact List.mem_append_right _ (List.mem_singleton_self _)
    exact newline_notMem_byteOrderMark _ hmem
  have hstart : (Position.start.advanceOver (byteOrderMark file₁.text)).advanceOver
      (withoutMark file₁.text) =
        Position.start.shift (byteLength file₁.text) (file₁.text.count '\n') := by
    rw [← Position.advanceOver_append, hsplit]
    exact Position.advanceOver_start_eq_shift (.inr ⟨line, hline⟩)
  have h₂' := h₂
  rw [SegmentsOf, byteOrderMark, withoutMark, if_neg hmark, if_neg hmark] at h₂'
  rw [SegmentsOf, hmark₁, hbody]
  refine (h₁.moveTo file.id 0 0).append hends ?_
  rw [Position.shift_zero, hstart]
  exact h₂'.moveTo file.id _ _

/-- The tokens and reports of whole lines in front of a text are those of the lines, without the
end of the file, and those of the text, moved behind the lines. -/
theorem yields_append (options : LexOptions) (hlines : file₁.text.getLast? = some '\n')
    (hmark : file₂.text.head? ≠ some '\uFEFF') (htext : file.text = file₁.text ++ file₂.text) :
    ∃ tokens₁ stop tokens₂ reports₁ reports₂,
      Yields file₁ options .skipLine (tokens₁ ++ [(.eof, stop)]) reports₁ ∧
      Yields file₂ options .skipLine tokens₂ reports₂ ∧
      Yields file options .skipLine
        (moveTokensTo file.id 0 0 tokens₁ ++
          moveTokensTo file.id (byteLength file₁.text) (file₁.text.count '\n') tokens₂)
        (moveReportsTo file.id 0 0 reports₁ ++
          moveReportsTo file.id (byteLength file₁.text) (file₁.text.count '\n') reports₂) := by
  obtain ⟨segments₁, h₁⟩ := exists_segmentsOf file₁
  obtain ⟨segments₂, h₂⟩ := exists_segmentsOf file₂
  obtain ⟨q, gap, heof⟩ := Segmented.exists_eof h₁
  have hnamed : namedOf segments₁ =
      namedOf segments₁.dropLast ++ [(.eof, (Segment.place file₁.id q gap .eof).span)] := by
    conv_lhs => rw [heof, namedOf_append]
    rfl
  have hreports : diagnosticsOf options segments₁ = diagnosticsOf options segments₁.dropLast := by
    conv_lhs => rw [heof, diagnosticsOf_append]
    exact List.append_nil _
  refine ⟨namedOf segments₁.dropLast, (Segment.place file₁.id q gap .eof).span, namedOf segments₂,
    diagnosticsOf options segments₁, diagnosticsOf options segments₂, ?_, ?_, ?_⟩
  · rw [← hnamed]
    exact yields_skipLine options h₁
  · exact yields_skipLine options h₂
  · have := yields_skipLine options (h₁.append h₂ hlines hmark htext)
    rw [← List.map_dropLast, namedOf_append, diagnosticsOf_append] at this
    rwa [namedOf_moveTo, namedOf_moveTo, diagnosticsOf_moveTo, diagnosticsOf_moveTo, ← hreports]
      at this

/-- A line of ten bytes, rejected at its end, and a text behind it. -/
theorem yields_append_rejected_line :
    ∃ tokens₁ stop tokens₂ reports₁ reports₂,
      Yields { id := 0, name := "a", text := "x = 1 €\n".toList } {} .skipLine
        (tokens₁ ++ [(.eof, stop)]) reports₁ ∧
      Yields { id := 1, name := "b", text := "µ = 2".toList } {} .skipLine tokens₂ reports₂ ∧
      Yields { id := 2, name := "c", text := "x = 1 €\nµ = 2".toList } {} .skipLine
        (moveTokensTo 2 0 0 tokens₁ ++ moveTokensTo 2 10 1 tokens₂)
        (moveReportsTo 2 0 0 reports₁ ++ moveReportsTo 2 10 1 reports₂) :=
  yields_append {} (by decide) (by decide) (by decide)

end Lexicon
