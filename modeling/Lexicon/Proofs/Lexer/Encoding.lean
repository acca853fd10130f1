import Lexicon.Proofs.Lexer.Relocation

/-!
# Carriage returns and byte order marks

How a file is encoded does not show in its tokens.  With carriage returns in front of its line
feeds, a text has the same outcome; each line feed begins one column later, and otherwise only
offsets differ.  Behind a byte order mark it has the same outcome three bytes further, and the
columns of the first line are one greater (`encoding_does_not_show`).
-/

namespace Lexicon

open Source Text

/-! ## Where positions go -/

/-- Every line feed in front of a position brings a carriage return. -/
def Source.Position.behindReturns (p : Position) : Position :=
  ⟨p.offset + (p.line - 1), p.line, p.column⟩

/-- A byte order mark takes three bytes and one column of the first line. -/
def Source.Position.behindMark (p : Position) : Position :=
  ⟨p.offset + 3, p.line, if p.line = 1 then p.column + 1 else p.column⟩

namespace Relocation

theorem isBlank_of_mem_return : ∀ c ∈ ['\r'], isBlank c := List.forall_mem_singleton.mpr rfl

theorem behindReturns_advance (p : Position) (c : Char) (hc : c ≠ '\n') :
    (p.advance c).behindReturns = p.behindReturns.advance c := by
  rw [Position.advance_of_ne p hc, Position.advance_of_ne _ hc]
  simp only [Position.behindReturns, Position.mk.injEq, and_true]
  omega

theorem behindReturns_newline (p : Position) (hp : 1 ≤ p.line) :
    (p.advance '\n').behindReturns = p.behindReturns.advanceOver (['\r'] ++ ['\n']) := by
  have hreturn : ∀ q : Position, q.advance '\r' = ⟨q.offset + 1, q.line, q.column + 1⟩ :=
    fun q => q.advance_of_ne (by decide)
  rw [List.singleton_append, Position.advanceOver_cons, Position.advanceOver_singleton, hreturn]
  simp only [Position.behindReturns, Position.advance, if_true, Position.mk.injEq, and_true]
  omega

theorem behindMark_advance (p : Position) (c : Char) (hc : c ≠ '\n') :
    (p.advance c).behindMark = p.behindMark.advance c := by
  rw [Position.advance_of_ne p hc, Position.advance_of_ne _ hc]
  unfold Position.behindMark
  split_ifs
  · simp only [Position.mk.injEq, and_true]
    omega
  · simp only [Position.mk.injEq, and_true]
    omega

theorem behindMark_newline (p : Position) (hp : 1 ≤ p.line) :
    (p.advance '\n').behindMark = p.behindMark.advanceOver ([] ++ ['\n']) := by
  simp only [Position.behindMark, List.nil_append, Position.advanceOver_singleton,
    Position.advance, if_true, Position.mk.injEq, true_and]
  split_ifs <;> omega

/-- The relocation to a text with carriage returns in front of its line feeds. -/
def returns (file : FileId) : Relocation where
  file
  filler := ['\r']
  place := Position.behindReturns
  isBlank_filler := isBlank_of_mem_return
  place_advance := behindReturns_advance
  place_newline := behindReturns_newline

/-- The relocation to a text behind a byte order mark. -/
def behindMark (file : FileId) : Relocation where
  file
  filler := []
  place := Position.behindMark
  isBlank_filler := isBlank_of_mem_nil
  place_advance := behindMark_advance
  place_newline := behindMark_newline

end Relocation

/-! ## Segments -/

section FillLines

variable {filler : List Char} (hfiller : ∀ c ∈ filler, isBlank c) (text : List Char)
include hfiller

theorem byteOrderMark_fillLines : byteOrderMark (fillLines filler text) = byteOrderMark text := by
  by_cases hmark : text.head? = some '\uFEFF'
  · obtain ⟨rest, rfl⟩ := List.head?_eq_some_iff.1 hmark
    rw [fillLines_cons_of_ne filler (by decide)]
    rfl
  · have hmark' : (fillLines filler text).head? ≠ some '\uFEFF' := by
      intro hhead
      rcases head?_fillLines hfiller hhead with hhead | ⟨hblank, -⟩
      · exact hmark hhead
      · exact absurd hblank (by decide)
    rw [byteOrderMark, byteOrderMark, if_neg hmark, if_neg hmark']

theorem withoutMark_fillLines :
    withoutMark (fillLines filler text) = fillLines filler (withoutMark text) := by
  have hwhole : byteOrderMark text ++ withoutMark (fillLines filler text) =
      byteOrderMark text ++ fillLines filler (withoutMark text) :=
    calc byteOrderMark text ++ withoutMark (fillLines filler text)
        = fillLines filler text := by
          rw [← byteOrderMark_fillLines hfiller, byteOrderMark_append]
      _ = fillLines filler (byteOrderMark text ++ withoutMark text) := by
          rw [byteOrderMark_append]
      _ = byteOrderMark text ++ fillLines filler (withoutMark text) := by
          rw [fillLines_append, fillLines_of_notMem filler (newline_notMem_byteOrderMark text)]
  exact List.append_cancel_left hwhole

end FillLines

section Segments

variable {file file' : SourceFile} {segments : List Segment}

/-- A file whose lines are filled has the same segments, behind the same byte order mark. -/
theorem SegmentsOf.fillLines {r : Relocation} (h : SegmentsOf file segments)
    (hid : file'.id = r.file) (htext : file'.text = fillLines r.filler file.text)
    (hstart : r.place .start = .start) :
    ∃ segments', SegmentsOf file' segments' ∧ List.Forall₂ r.Puts segments segments' := by
  have hline : 1 ≤ (Position.start.advanceOver (byteOrderMark file.text)).line := by
    rw [Position.line_advanceOver]
    exact Nat.le_add_right 1 _
  obtain ⟨segments', h', hputs⟩ := Segmented.relocate r h hline
  refine ⟨segments', ?_, hputs⟩
  rw [r.place_advanceOver_of_notMem (Nat.le_refl 1) (newline_notMem_byteOrderMark _), hstart] at h'
  rw [SegmentsOf, hid, htext, byteOrderMark_fillLines r.isBlank_filler,
    withoutMark_fillLines r.isBlank_filler]
  exact h'

/-- Behind a byte order mark a file has the same segments. -/
theorem SegmentsOf.behindMark (h : SegmentsOf file segments)
    (htext : file'.text = '\uFEFF' :: file.text) (hmark : file.text.head? ≠ some '\uFEFF') :
    ∃ segments', SegmentsOf file' segments' ∧
      List.Forall₂ (Relocation.behindMark file'.id).Puts segments segments' := by
  have hbody : byteOrderMark file.text = [] ∧ withoutMark file.text = file.text :=
    ⟨if_neg hmark, if_neg hmark⟩
  have hbody' : byteOrderMark file'.text = ['\uFEFF'] ∧ withoutMark file'.text = file.text := by
    rw [htext]
    exact ⟨rfl, rfl⟩
  rw [SegmentsOf, hbody.1, hbody.2] at h
  obtain ⟨segments', h', hputs⟩ := Segmented.relocate (.behindMark file'.id) h (Nat.le_refl 1)
  refine ⟨segments', ?_, hputs⟩
  rw [SegmentsOf, hbody'.1, hbody'.2]
  rw [show (Relocation.behindMark file'.id).filler = [] from rfl, fillLines_nil] at h'
  exact h'

end Segments

/-! ## Runs -/

/-- The encoding of a text does not show in its tokens.  With a carriage return in front of every
line feed it has the same outcome, where only offsets differ, and line feeds begin one column later.
Behind a byte order mark it has the same outcome, where all offsets are three greater, and the
columns of the first line one greater. -/
theorem encoding_does_not_show (name : String) (text : List Char) (options : LexOptions)
    (policy : RecoveryPolicy) (symbols symbols' : SymbolTable) (log log' : DiagnosticLog)
    (id id' : FileId) :
    (Relocation.returns id').Relates log log'
      (tokenize { id, name, text } options policy symbols log)
      (tokenize { id := id', name, text := fillLines ['\r'] text } options policy symbols'
        log') ∧
    (text.head? ≠ some '\uFEFF' →
      (Relocation.behindMark id').Relates log log'
        (tokenize { id, name, text } options policy symbols log)
        (tokenize { id := id', name, text := '\uFEFF' :: text } options policy symbols'
          log')) := by
  obtain ⟨segments, h⟩ := exists_segmentsOf { id, name, text }
  constructor
  · obtain ⟨segments', h', hputs⟩ := @SegmentsOf.fillLines _
      { id := id', name, text := fillLines ['\r'] text } _ (.returns id') h rfl rfl rfl
    exact relates_tokenize h h' hputs options symbols symbols' log log' policy rfl
  · intro hmark
    obtain ⟨segments', h', hputs⟩ := @SegmentsOf.behindMark _
      { id := id', name, text := '\uFEFF' :: text } _ h rfl hmark
    exact relates_tokenize h h' hputs options symbols symbols' log log' policy rfl

/-- A literal in front of an underscore, a comment, a carriage return and a rejected line, each at
the end of a line. -/
theorem encoding_does_not_show_line_ends :
    ∃ text returned marked : List Char,
      text = "1_\nx # c\ny\r\n€ é\n".toList ∧
      returned = "1_\r\nx # c\r\ny\r\r\n€ é\r\n".toList ∧
      marked = "\uFEFF1_\nx # c\ny\r\n€ é\n".toList ∧
      (Relocation.returns 1).Relates {} {}
        (tokenize { id := 0, name := "a", text } {} .skipLine {} {})
        (tokenize { id := 1, name := "a", text := returned } {} .skipLine {} {}) ∧
      text.head? ≠ some '\uFEFF' ∧
      (Relocation.behindMark 1).Relates {} {}
        (tokenize { id := 0, name := "a", text } {} .skipLine {} {})
        (tokenize { id := 1, name := "a", text := marked } {} .skipLine {} {}) := by
  have hmark : "1_\nx # c\ny\r\n€ é\n".toList.head? ≠ some '\uFEFF' := by decide
  obtain ⟨hreturned, hmarked⟩ := encoding_does_not_show "a" "1_\nx # c\ny\r\n€ é\n".toList {}
    .skipLine {} {} {} {} 0 1
  exact ⟨_, _, _, rfl, by decide +kernel, by decide +kernel, hreturned, hmark, hmarked hmark⟩

end Lexicon
