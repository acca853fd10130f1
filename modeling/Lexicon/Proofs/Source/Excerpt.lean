import Lexicon.Source.Map
import Lexicon.Proofs.Source.Lines
import Lexicon.Proofs.Text.Decimal

/-!
# Excerpts

An excerpt has three lines: a place, a line of the source, and carets under a part of it.  For a
span of a file in the map that covers a part of one line, the excerpt shows that line, and the
carets stand under what the span covers (`exists_excerpt`).
-/

namespace Lexicon.Source

open Text

/-! ## Fields of a fixed width -/

theorem toList_pushn (s : String) (c : Char) (n : Nat) :
    (s.pushn c n).toList = s.toList ++ List.replicate n c := by
  induction n with
  | zero => exact (List.append_nil _).symm
  | succ n ih =>
    rw [List.replicate_succ', ← List.append_assoc, ← ih]
    exact String.toList_push c

namespace SourceMap

theorem toList_blanks (n : Nat) : (blanks n).toList = List.replicate n ' ' :=
  toList_pushn "" ' ' n

theorem toList_padLeft (width n : Nat) :
    (padLeft width n).toList =
      List.replicate (width - (toString n).length) ' ' ++ (toString n).toList := by
  rw [padLeft, String.toList_append, toList_blanks]

theorem length_toList_padLeft {width n : Nat} (h : (toString n).length ≤ width) :
    (padLeft width n).toList.length = width := by
  rw [toList_padLeft, List.length_append, List.length_replicate, String.length_toList]
  omega

/-- A number in its field is blanks and digits. -/
theorem notMem_toList_padLeft {c : Char} (hblank : c ≠ ' ') (hdigit : c.isDigit = false)
    (width n : Nat) : c ∉ (padLeft width n).toList := by
  rw [toList_padLeft, List.mem_append, not_or]
  exact ⟨fun h => hblank (List.eq_of_mem_replicate h), notMem_toString hdigit n⟩

/-! ## The files of a map -/

/-- The map that files are added to in turn, given by their names and texts. -/
def ofTexts (texts : List (String × List Char)) : SourceMap :=
  texts.foldl (fun m (name, text) => (m.addFile name text).2) {}

/-- Every file has the number under which the map has it. -/
def IsNumbered (m : SourceMap) : Prop := ∀ id file, m.get? id = some file → file.id = id

theorem isNumbered_addFile {m : SourceMap} (h : m.IsNumbered) (name : String) (text : List Char) :
    (m.addFile name text).2.IsNumbered := by
  intro id file hfile
  have hpush : (m.files.push { id := m.files.size, name, text })[id]? = some file := hfile
  rw [Array.getElem?_push] at hpush
  split_ifs at hpush with hid
  · rw [← Option.some.inj hpush]
    exact hid.symm
  · exact h id file hpush

theorem isNumbered_ofTexts (texts : List (String × List Char)) : (ofTexts texts).IsNumbered := by
  induction texts using List.reverseRecOn with
  | nil =>
    intro id file hfile
    cases hfile
  | append_singleton texts entry ih =>
    rw [ofTexts, List.foldl_append]
    exact isNumbered_addFile ih entry.1 entry.2

/-- A file of the map is found by its number. -/
theorem IsNumbered.get?_id {m : SourceMap} (h : m.IsNumbered) {file : SourceFile}
    (hfile : file ∈ m.files) : m.get? file.id = some file := by
  obtain ⟨id, hid⟩ := Array.mem_iff_getElem?.1 hfile
  rw [h id file hid]
  exact hid

end SourceMap

/-! ## Excerpts -/

/-- The parts of an excerpt: the place of a span, a line with its number, and carets below. -/
structure Excerpt where
  place : String
  /-- The number of the line, in the field in front of the first bar. -/
  number : List Char
  line : List Char
  /-- The width of the empty field in front of the second bar. -/
  margin : Nat
  /-- The number of blanks between the second bar and the carets, without that next to the bar. -/
  indent : Nat
  carets : Nat

namespace Excerpt

/-- The line of an excerpt that shows the source. -/
def sourceLine (e : Excerpt) : List Char := e.number ++ " | ".toList ++ e.line

/-- The line of an excerpt with the carets. -/
def caretLine (e : Excerpt) : List Char :=
  List.replicate e.margin ' ' ++ " | ".toList ++ List.replicate e.indent ' ' ++
    List.replicate e.carets '^'

def text (e : Excerpt) : String :=
  e.place ++ "\n" ++ String.ofList e.sourceLine ++ "\n" ++ String.ofList e.caretLine

/-- The excerpt shows the first line of a span with carets under `reported`. -/
structure PointsAt (e : Excerpt) (file : SourceFile) (span : Span) (reported : List Char) :
    Prop where
  place_eq : e.place = s!"--> {file.name}:{span.lo.line}:{span.lo.column}"
  number_eq : ∃ pad, e.number = List.replicate pad ' ' ++ (toString span.lo.line).toList
  line_eq : file.lineAt? span.lo.line = some e.line
  /-- The line of the source and that of the carets are lines, with their bars in one column. -/
  newline_notMem : '\n' ∉ e.sourceLine ∧ '\n' ∉ e.caretLine
  bar_eq : e.sourceLine.idxOf '|' = e.caretLine.idxOf '|'
  carets_pos : 0 < e.carets
  carets_eq : e.carets = reported.length
  reported_eq : (e.line.drop e.indent).take e.carets = reported

theorem idxOf_bar {field : List Char} (h : '|' ∉ field) (rest : List Char) :
    (field ++ " | ".toList ++ rest).idxOf '|' = field.length + 1 := by
  rw [List.append_assoc, List.idxOf_append_of_notMem h]
  rfl

/-- The bars stand in one column if the fields in front of them are equally wide. -/
theorem idxOf_bar_eq {e : Excerpt} (hnumber : '|' ∉ e.number)
    (hwidth : e.number.length = e.margin) : e.sourceLine.idxOf '|' = e.caretLine.idxOf '|' := by
  have hmargin : '|' ∉ List.replicate e.margin ' ' := fun h =>
    absurd (List.eq_of_mem_replicate h) (by decide)
  rw [sourceLine, caretLine, List.append_assoc _ (List.replicate e.indent ' '), idxOf_bar hnumber,
    idxOf_bar hmargin, List.length_replicate, hwidth]

theorem newline_notMem {e : Excerpt} (hnumber : '\n' ∉ e.number) (hline : '\n' ∉ e.line) :
    '\n' ∉ e.sourceLine ∧ '\n' ∉ e.caretLine := by
  constructor
  · simp [sourceLine, hnumber, hline]
  · simp [caretLine, List.mem_replicate]

end Excerpt

/-- The width of the field in front of the bars. -/
def SourceFile.gutter (file : SourceFile) : Nat := max 3 (toString file.lineCount).length

/-- The excerpt of a span that covers the text of `part`, in a file with at least as many lines. -/
def excerptOf (file : SourceFile) (span : Span) (line part : List Char) : Excerpt where
  place := s!"--> {file.name}:{span.lo.line}:{span.lo.column}"
  number := (SourceMap.padLeft file.gutter span.lo.line).toList
  line := line
  margin := file.gutter
  indent := span.lo.column - 1
  carets := max 1 part.length

namespace SourceMap

variable {m : SourceMap} {file : SourceFile} {span : Span} {line part : List Char}

/-- What `formatSpan` writes where the span has a line and covers a text. -/
theorem formatSpan_eq (hfile : m.get? span.file = some file)
    (hcheck : file.checkLine span.lo.line = .ok ())
    (hline : file.lineAt? span.lo.line = some line) (hpart : file.snippet span = .ok part) :
    m.formatSpan span = .ok (excerptOf file span line part).text := by
  have hget : m.getFile span.file = .ok file := by rw [getFile, hfile]
  have hstring : ∀ s : String, toString s = s := fun _ => rfl
  rw [formatSpan, hget]
  simp only [bind, Except.bind, hcheck, hline, hpart, Option.getD_some, pure, Except.pure,
    Except.ok.injEq]
  rw [← String.toList_inj]
  simp [excerptOf, SourceFile.gutter, Excerpt.text, Excerpt.sourceLine, Excerpt.caretLine,
    toList_blanks, toList_pushn, hstring]

theorem number_excerptOf :
    (excerptOf file span line part).number = (padLeft file.gutter span.lo.line).toList := by
  rw [excerptOf]

/-- Where a line is cut at the column of a span, the carets stand under what follows. -/
theorem pointsAt_excerptOf {head kept : List Char} (hle : span.lo.line ≤ file.lineCount)
    (hne : part ≠ []) (hcolumn : span.lo.column = head.length + 1)
    (hline : file.lineAt? span.lo.line = some (head ++ part ++ kept))
    (hnewline : '\n' ∉ head ++ part ++ kept) :
    (excerptOf file span (head ++ part ++ kept) part).PointsAt file span part := by
  have hcarets : max 1 part.length = part.length :=
    Nat.max_eq_right (List.length_pos_iff.2 hne)
  have hindent : span.lo.column - 1 = head.length := by rw [hcolumn, Nat.add_sub_cancel]
  have hwidth : (toString span.lo.line).length ≤ file.gutter :=
    Nat.le_trans (length_toString_le hle) (Nat.le_max_right _ _)
  have hnumber {c : Char} (hblank : c ≠ ' ') (hdigit : c.isDigit = false) :
      c ∉ (excerptOf file span (head ++ part ++ kept) part).number := by
    rw [number_excerptOf]
    exact notMem_toList_padLeft hblank hdigit file.gutter span.lo.line
  have hlength : (excerptOf file span (head ++ part ++ kept) part).number.length = file.gutter := by
    rw [number_excerptOf]
    exact length_toList_padLeft hwidth
  refine ⟨rfl, ?_, hline, Excerpt.newline_notMem (hnumber (by decide) (by decide)) hnewline,
    Excerpt.idxOf_bar_eq (hnumber (by decide) (by decide)) hlength, ?_, hcarets, ?_⟩
  · rw [number_excerptOf]
    exact ⟨_, toList_padLeft file.gutter span.lo.line⟩
  · exact Nat.lt_of_lt_of_le Nat.one_pos (Nat.le_max_left 1 part.length)
  · rw [excerptOf, hcarets, hindent, List.append_assoc, List.drop_left, List.take_left]

/-- A part of a line, without terminators, is shown with carets under it. -/
theorem exists_excerpt {front back : List Char} (hfile : m.get? span.file = some file)
    (htext : file.text = front ++ part ++ back) (hne : part ≠ [])
    (hpart : ∀ c ∈ part, SourceFile.isTerminator c = false)
    (hlo : span.lo = Position.start.advanceOver front)
    (hhi : span.hi = Position.start.advanceOver (front ++ part)) :
    file.snippet span = .ok part ∧
      ∃ e : Excerpt, m.formatSpan span = .ok e.text ∧ e.PointsAt file span part := by
  have hsnippet : file.snippet span = .ok part := by
    refine file.snippet_eq_ok htext ?_ ?_
    · rw [hlo, Position.offset_advanceOver_start]
    · rw [hhi, Position.offset_advanceOver_start]
  obtain ⟨head, kept, hhead, hkept, hcolumn, hline⟩ := file.exists_lineAt?_of_part htext hne hpart
  rw [← hlo] at hcolumn hline
  have hnewline : '\n' ∉ head ++ part ++ kept := by
    have hnone : '\n' ∉ part := fun hmem => absurd (hpart _ hmem) (by decide)
    simp [hhead, hnone, hkept]
  have hnumber : span.lo.line = front.count '\n' + 1 := by
    rw [hlo, Position.line_advanceOver]
    exact Nat.add_comm _ _
  have hle : span.lo.line ≤ file.lineCount := by
    rw [hnumber, file.lineCount_eq, htext, List.append_assoc, List.count_append]
    omega
  have hcheck : file.checkLine span.lo.line = .ok () := if_neg (by omega)
  exact ⟨hsnippet, _, formatSpan_eq hfile hcheck hline hsnippet,
    pointsAt_excerptOf hle hne hcolumn hline hnewline⟩

end SourceMap

end Lexicon.Source
