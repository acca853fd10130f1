import Lexicon.Proofs.Lexer.Run
import Lexicon.Proofs.Unicode.IdentifierClosure
import Lexicon.Proofs.Unicode.NameEquality

/-!
# Names as spellings

The normal form of an identifier is an identifier (`IsIdentifier.nfkc`), so the name of an
identifier is one of its spellings.  A file that holds a name and nothing else is read as that one
identifier, and nothing is reported about it (`name_reads_as_itself`).
-/

namespace Lexicon

open Source Text Unicode

theorem IsIdentifier.nfkc {raw : List Char} (h : IsIdentifier raw) :
    IsIdentifier (Unicode.nfkc raw) := by
  obtain ⟨c, rest, rfl, hc, hrest⟩ := h
  exact exists_nfkc_eq_cons hc hrest

theorem nameOf_nfkc (raw : List Char) : nameOf (nfkc raw) = String.ofList (nfkc raw) := by
  rw [nameOf, normalize_eq_nfkc, nfkc_nfkc]

theorem IsIdentifier.head?_ne_mark {text : List Char} (h : IsIdentifier text) :
    text.head? ≠ some '\uFEFF' := by
  obtain ⟨c, rest, rfl, hc, -⟩ := h
  rw [List.head?_cons, Ne, Option.some.injEq]
  exact ne_of_apply_ne hc isIdentStart_byteOrderMark

/-! ## Files that hold one identifier -/

section File

variable {file : SourceFile} (h : IsIdentifier file.text)

include h

theorem IsIdentifier.segmentsOf :
    SegmentsOf file [.place file.id .start [] (.ident file.text),
      .place file.id (Position.start.advanceOver file.text) [] .eof] := by
  have hhead := h.head?_ne_mark
  have hblank : ∀ rest, IsTrivia [] rest := fun rest => .blanks (List.forall_mem_nil _)
  rw [SegmentsOf, byteOrderMark, withoutMark, if_neg hhead, if_neg hhead]
  refine .cons (List.append_nil _).symm (hblank _) (.ident h (nofun)) Lexeme.noConfusion ?_
  exact .eof (hblank _)

/-- A file that holds one identifier is read as that one. -/
theorem tokenize_of_isIdentifier (options : LexOptions) (symbols : SymbolTable)
    (log : DiagnosticLog) :
    ∃ lx, tokenize file options .abort symbols log =
        (.ok #[⟨.ident ⟨(symbols.intern (nameOf file.text)).1,
            ⟨.start, Position.start.advanceOver file.text, file.id⟩⟩,
            ⟨.start, Position.start.advanceOver file.text, file.id⟩⟩,
          ⟨.eof, ⟨Position.start.advanceOver file.text, Position.start.advanceOver file.text,
            file.id⟩⟩], lx) ∧
      lx.symbols = (symbols.intern (nameOf file.text)).2 ∧
      (isNormalized file.text → lx.log = log) := by
  have hsegments := h.segmentsOf
  have haccepted := tokenize_abort_eq options symbols log hsegments
    (by simp [Segment.place, Lexeme.isRejected])
  obtain ⟨lx, hrun, hsymbols, hlog⟩ := tokenize_skipLine options symbols log hsegments
  rw [← haccepted] at hrun
  refine ⟨lx, hrun, hsymbols, fun hnormal => ?_⟩
  have hnone : normalForm? file.text = none := Option.isNone_iff_eq_none.1 hnormal
  rw [hlog]
  simp [Segment.diagnosticsOf, Segment.place, Segment.diagnostics, hnone, DiagnosticLog.emitAll_nil]

end File

/-- The name of an identifier is an identifier, and a file that holds it alone is read as that name
and nothing else, with nothing to report; its symbol is that of the name at all other times. -/
theorem name_reads_as_itself {raw : List Char} (h : IsIdentifier raw) :
    IsIdentifier (nfkc raw) ∧
    ∀ file : SourceFile, file.text = nfkc raw →
      ∀ (options : LexOptions) (symbols : SymbolTable) (log : DiagnosticLog),
        ∃ (id : Ident) (eof : Span) (lx : Lexer),
          tokenize file options .abort symbols log =
            (.ok #[⟨.ident id, id.span⟩, ⟨.eof, eof⟩], lx) ∧
          file.snippet id.span = .ok (nfkc raw) ∧
          lx.symbols.textOf id.name = String.ofList (nfkc raw) ∧
          lx.log = log ∧
          (∀ t : SymbolTable, symbols.Extends (t.internNormalized (String.ofList raw)).2 →
            id.name = (t.internNormalized (String.ofList raw)).1) ∧
          ∀ t : SymbolTable, t.Extends lx.symbols →
            (t.internNormalized (String.ofList raw)).1 = id.name := by
  refine ⟨h.nfkc, fun file htext options symbols log => ?_⟩
  have hident : IsIdentifier file.text := htext ▸ h.nfkc
  have hname : nameOf file.text = String.ofList (nfkc raw) := by rw [htext, nameOf_nfkc]
  have hnormal : isNormalized file.text := by
    rw [htext, isNormalized, Option.isNone_iff_eq_none, normalForm?_eq, if_pos (nfkc_nfkc raw)]
  have hintern : ∀ t : SymbolTable,
      t.internNormalized (String.ofList raw) = t.intern (String.ofList (nfkc raw)) := by
    intro t
    rw [t.internNormalized_eq, String.toList_ofList]
  obtain ⟨lx, hrun, hsymbols, hlog⟩ := tokenize_of_isIdentifier hident options symbols log
  rw [hname] at hrun hsymbols
  refine ⟨_, _, lx, hrun, ?_, ?_, hlog hnormal, fun t ht => ?_, fun t ht => ?_⟩
  · have hwhole : file.text = [] ++ nfkc raw ++ [] := by
      rw [htext, List.nil_append, List.append_nil]
    refine file.snippet_eq_ok hwhole rfl ?_
    rw [htext, List.nil_append]
    exact Position.offset_advanceOver_start _
  · rw [hsymbols]
    exact SymbolTable.textOf_intern_of_extends (SymbolTable.extends_refl _)
  · rw [hintern] at ht ⊢
    exact ht.fst_intern
  · rw [hsymbols] at ht
    rw [hintern]
    exact ht.fst_intern

/-- A spelling with a ligature and a combining accent, whose name has neither. -/
theorem name_reads_as_itself_ligature :
    IsIdentifier "ﬁe\u0301".toList ∧ nfkc "ﬁe\u0301".toList = "fié".toList ∧
    IsIdentifier "fié".toList ∧
    ∃ (id : Ident) (eof : Span) (lx : Lexer),
      tokenize { id := 0, name := "a", text := "fié".toList } ⟨true⟩ .abort {} {} =
        (.ok #[⟨.ident id, id.span⟩, ⟨.eof, eof⟩], lx) ∧
      lx.symbols.textOf id.name = "fié" ∧ lx.log = {} ∧
      (lx.symbols.internNormalized "ﬁe\u0301").1 = id.name := by
  have hraw : IsIdentifier "ﬁe\u0301".toList :=
    ⟨'ﬁ', ['e', '\u0301'], rfl, by decide +kernel, List.all_eq_true.1 (by decide +kernel)⟩
  have hform : nfkc "ﬁe\u0301".toList = "fié".toList := by decide +kernel
  obtain ⟨hident, hreads⟩ := name_reads_as_itself hraw
  obtain ⟨id, eof, lx, hrun, -, htext, hlog, -, hlater⟩ :=
    hreads { id := 0, name := "a", text := "fié".toList } hform.symm ⟨true⟩ {} {}
  rw [hform, String.ofList_toList] at htext
  have hsymbol := hlater lx.symbols (SymbolTable.extends_refl _)
  rw [String.ofList_toList] at hsymbol
  exact ⟨hraw, hform, hform ▸ hident, id, eof, lx, hrun, htext, hlog, hsymbol⟩

end Lexicon
