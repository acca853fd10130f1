import Lexicon.Proofs.Source.Lines

/-!
# The line table

Every offset lies behind some first part of the text, at most within the character that follows
(`LiesBehind`), and that part tells its position (`positionAt_of_between`, `positionAt_of_inside`).
So the line that the table finds starts at the offset or before it, and the next one behind it
(`holds_positionAt`).

The lines begin at increasing offsets, each behind a line feed (`lineStart?_lt`, `exists_isLine`).
Between two of them stands a line and what terminates it.  Together the lines cover the file, and
all that is asked about them by number agrees (`lines_partition`).
-/

namespace Lexicon.Source

open Text

/-! ## Offsets -/

/-- Byte `offset` of a text lies behind its first part `before`, at most within the character that
follows. -/
structure LiesBehind (text : List Char) (offset : Nat) (before after : List Char) : Prop where
  text_eq : text = before ++ after
  le : byteLength before ≤ offset
  lt : ∀ c ∈ after.head?, offset < byteLength before + c.utf8Size

theorem exists_liesBehind (text : List Char) (offset : Nat) :
    ∃ before after, LiesBehind text offset before after := by
  induction text generalizing offset with
  | nil =>
    refine ⟨[], [], rfl, Nat.zero_le _, ?_⟩
    rintro _ ⟨⟩
  | cons c text ih =>
    by_cases hc : offset < c.utf8Size
    · refine ⟨[], c :: text, rfl, Nat.zero_le _, ?_⟩
      rintro _ ⟨⟩
      rwa [byteLength_nil, Nat.zero_add]
    · obtain ⟨before, after, rfl, hle, hlt⟩ := ih (offset - c.utf8Size)
      refine ⟨c :: before, after, rfl, ?_, fun d hd => ?_⟩
      · rw [byteLength_cons]
        omega
      · have := hlt d hd
        rw [byteLength_cons]
        omega

namespace LiesBehind

variable {text before after : List Char} {offset : Nat} (h : LiesBehind text offset before after)

include h

theorem clamp : LiesBehind text (min offset (byteLength text)) before after := by
  have htext := congrArg byteLength h.text_eq
  have hle := h.le
  rw [byteLength_append] at htext
  refine ⟨h.text_eq, by omega, fun c hc => ?_⟩
  have := h.lt c hc
  omega

/-- Where the text can be cut at the offset, it is cut behind that first part. -/
theorem eq_of_append {first rest : List Char} (ht : text = first ++ rest)
    (ho : byteLength first = offset) : first = before := by
  have hle := h.le
  rcases List.append_eq_append_iff.1 (h.text_eq.symm.trans ht) with
    ⟨part, rfl, hafter⟩ | ⟨part, rfl, -⟩
  · cases part with
    | nil => exact List.append_nil before
    | cons c part =>
      have hlt := h.lt c (by rw [hafter]; rfl)
      rw [byteLength_append, byteLength_cons] at ho
      omega
  · have hpart : part = [] := by
      by_contra hne
      have := byteLength_pos hne
      rw [byteLength_append] at hle
      omega
    rw [hpart, List.append_nil]

/-- A later offset lies behind as much of the text, or more. -/
theorem prefix_of_le {offset' : Nat} {before' after' : List Char}
    (h' : LiesBehind text offset' before' after') (hle : offset ≤ offset') :
    before <+: before' := by
  rcases List.append_eq_append_iff.1 (h.text_eq.symm.trans h'.text_eq) with
    ⟨part, rfl, -⟩ | ⟨part, rfl, hafter⟩
  · exact List.prefix_append before part
  · cases part with
    | nil => simp
    | cons c part =>
      have hfirst := h.le
      have hlt := h'.lt c (by rw [hafter]; rfl)
      rw [byteLength_append, byteLength_cons] at hfirst
      omega

end LiesBehind

namespace SourceFile

variable (f : SourceFile) {before after : List Char} {offset : Nat}

/-! ## Positions of offsets -/

theorem positionAt_min (offset : Nat) : f.positionAt (min offset f.size) = f.positionAt offset := by
  simp only [positionAt, Nat.min_assoc, Nat.min_self]

section LiesBehind

variable {f} (h : LiesBehind f.text offset before after)

include h

theorem countUpTo_starts_of_liesBehind :
    countUpTo f.starts (min offset f.size) 0 f.lineCount = before.count '\n' + 1 := by
  have hclamp := h.clamp
  rw [← f.size_eq] at hclamp
  exact f.countUpTo_starts hclamp.text_eq hclamp.le hclamp.lt

theorem line_positionAt : (f.positionAt offset).line = before.count '\n' + 1 :=
  countUpTo_starts_of_liesBehind h

theorem positionAt_of_between (ho : min offset f.size = byteLength before) :
    f.positionAt offset = Position.start.advanceOver before := by
  rw [← f.positionAt_min, ho, f.positionAt_byteLength h.text_eq]

/-- Within a character the text cannot be cut, and the column is the first one. -/
theorem positionAt_of_inside (ho : min offset f.size ≠ byteLength before) :
    f.positionAt offset = ⟨min offset f.size, before.count '\n' + 1, 1⟩ := by
  have hclamp := h.clamp
  rw [← f.size_eq] at hclamp
  have hslice : ∀ start, slice? f.text start (min offset f.size) = none := by
    intro start
    rw [Option.eq_none_iff_forall_ne_some]
    intro part hpart
    obtain ⟨first, rest, htext, rfl, hstop⟩ := slice?_eq_some_iff.1 hpart
    rw [← byteLength_append] at hstop
    rw [← hclamp.eq_of_append htext hstop] at ho
    exact ho hstop.symm
  rw [positionAt]
  simp only [countUpTo_starts_of_liesBehind h, hslice, Option.elim_none]

end LiesBehind

theorem offset_positionAt (offset : Nat) : (f.positionAt offset).offset = min offset f.size := rfl

/-! ## Starts of lines -/

theorem lineStart?_eq (n : Nat) : f.lineStart? n = (lineStarts f.text)[n]? := by
  rw [lineStart?, f.starts_eq, List.getElem?_toArray]

/-- The table has no starts but those of the first line and behind each line feed. -/
theorem le_of_lineStart?_eq_some {n start : Nat} (h : f.lineStart? n = some start) :
    n ≤ f.text.count '\n' := by
  by_contra hlt
  rw [f.lineStart?_eq_none (Nat.lt_of_not_le hlt)] at h
  cases h

end SourceFile

theorem pairwise_lineStartsFrom (offset : Nat) (text : List Char) :
    (lineStartsFrom offset text).Pairwise (· < ·) := by
  induction text generalizing offset with
  | nil => exact List.Pairwise.nil
  | cons c text ih =>
    rw [lineStartsFrom]
    split_ifs
    · exact List.pairwise_cons.2 ⟨fun n hn => (lt_of_mem_lineStartsFrom hn).1, ih _⟩
    · exact ih _

theorem pairwise_lineStarts (text : List Char) : (lineStarts text).Pairwise (· < ·) :=
  List.pairwise_cons.2
    ⟨fun _ hn => (lt_of_mem_lineStartsFrom hn).1, pairwise_lineStartsFrom 0 text⟩

namespace SourceFile

variable (f : SourceFile) {before line rest : List Char} {m n offset start next : Nat}

theorem lineStart?_lt (hlt : m < n) (hm : f.lineStart? m = some start)
    (hn : f.lineStart? n = some next) : start < next := by
  rw [lineStart?_eq, List.getElem?_eq_some_iff] at hm hn
  obtain ⟨hm', rfl⟩ := hm
  obtain ⟨hn', rfl⟩ := hn
  exact List.pairwise_iff_getElem.1 (pairwise_lineStarts f.text) m n hm' hn' hlt

/-- The first line that starts behind a part of the text starts behind what follows there. -/
theorem lt_of_lineStart?_eq_some (h : LiesBehind f.text offset before rest)
    (hnext : f.lineStart? (before.count '\n' + 1) = some next) : offset < next := by
  rw [lineStart?_eq, h.text_eq, lineStarts_append,
    List.getElem?_append_right (length_lineStarts before).le] at hnext
  exact lt_of_mem_lineStartsFrom_of_head? h.lt (List.mem_of_getElem? hnext)

/-- A position that lies in its line: the line starts at it or before it, and the next one, if there
is one, behind it. -/
structure Holds (p : Position) : Prop where
  line_pos : 0 < p.line
  start_le : ∃ start, f.lineStart? (p.line - 1) = some start ∧ start ≤ p.offset
  lt_next : ∀ next, f.lineStart? p.line = some next → p.offset < next

theorem holds_positionAt (offset : Nat) : f.Holds (f.positionAt offset) := by
  obtain ⟨before, after, h⟩ := exists_liesBehind f.text offset
  obtain ⟨above, line, rfl, hends, hline⟩ := exists_lastLine before
  have hclamp := h.clamp
  have hcount : (above ++ line).count '\n' = above.count '\n' := by
    rw [List.count_append, List.count_eq_zero.2 hline, Nat.add_zero]
  rw [← f.size_eq] at hclamp
  refine ⟨?_, ⟨byteLength above, ?_, ?_⟩, fun next hnext => ?_⟩
  · rw [line_positionAt h]
    exact Nat.succ_pos _
  · rw [line_positionAt h, Nat.add_sub_cancel, hcount]
    exact f.lineStart?_count (h.text_eq.trans (List.append_assoc _ _ _)) hends
  · have hle := hclamp.le
    rw [byteLength_append] at hle
    rw [offset_positionAt]
    omega
  · rw [line_positionAt h] at hnext
    exact f.lt_of_lineStart?_eq_some hclamp hnext

end SourceFile

/-! ## Lines by number -/

/-- Line `n` of a text, counted from 0, is `line` behind `before`.  The rest, if there is one,
begins with its line feed. -/
structure IsLine (text : List Char) (n : Nat) (before line rest : List Char) : Prop where
  text_eq : text = before ++ line ++ rest
  endsLine : EndsLine before
  count_eq : before.count '\n' = n
  newline_notMem : '\n' ∉ line
  head?_eq : ∀ c ∈ rest.head?, c = '\n'

theorem EndsLine.cons {before : List Char} (h : EndsLine before) {c : Char}
    (hc : before = [] → c = '\n') : EndsLine (c :: before) := by
  rcases h with rfl | ⟨line, rfl⟩
  · exact hc rfl ▸ endsLine_append_newline []
  · exact endsLine_append_newline (c :: line)

/-- A text has a first line, and one more behind each of its line feeds. -/
theorem exists_isLine {text : List Char} {n : Nat} (h : n ≤ text.count '\n') :
    ∃ before line rest, IsLine text n before line rest := by
  induction text generalizing n with
  | nil =>
    obtain rfl : n = 0 := Nat.le_zero.1 h
    refine ⟨[], [], [], rfl, endsLine_nil, rfl, List.not_mem_nil, ?_⟩
    rintro _ ⟨⟩
  | cons c text ih =>
    by_cases hc : c = '\n'
    · subst hc
      cases n with
      | zero =>
        refine ⟨[], [], '\n' :: text, rfl, endsLine_nil, rfl, List.not_mem_nil, ?_⟩
        rintro _ ⟨⟩
        rfl
      | succ n =>
        rw [List.count_cons_self] at h
        obtain ⟨before, line, rest, hline⟩ := ih (Nat.le_of_succ_le_succ h)
        refine ⟨'\n' :: before, line, rest, ?_, hline.endsLine.cons fun _ => rfl, ?_,
          hline.newline_notMem, hline.head?_eq⟩
        · rw [hline.text_eq, List.cons_append, List.cons_append]
        · rw [List.count_cons_self, hline.count_eq]
    · rw [List.count_cons_of_ne hc] at h
      obtain ⟨before, line, rest, hline⟩ := ih h
      cases before with
      | nil =>
        -- The first line begins with the character.
        refine ⟨[], c :: line, rest, ?_, endsLine_nil, hline.count_eq, ?_, hline.head?_eq⟩
        · rw [hline.text_eq]
          rfl
        · rw [List.mem_cons, not_or]
          exact ⟨Ne.symm hc, hline.newline_notMem⟩
      | cons d before =>
        have hnil : d :: before = [] → c = '\n' := fun hnil => absurd hnil (List.cons_ne_nil _ _)
        refine ⟨c :: d :: before, line, rest, ?_, hline.endsLine.cons hnil, ?_,
          hline.newline_notMem, hline.head?_eq⟩
        · rw [hline.text_eq]
          rfl
        · rw [List.count_cons_of_ne hc, hline.count_eq]

namespace SourceFile

/-- A line as asked for by its number, counted from 1: it stands in the text where the table has its
start, holds no line feed, and nothing but terminators is between it and the next start, or the end
of the text. -/
def ShowsLine (f : SourceFile) (n : Nat) (line : List Char) : Prop :=
  ∃ before ending after, f.text = before ++ (line ++ (ending ++ after)) ∧
    f.lineStart? (n - 1) = some (byteLength before) ∧
    (f.lineStart? n).getD f.size = byteLength (before ++ (line ++ ending)) ∧
    '\n' ∉ line ∧ ∀ c ∈ ending, c = '\n' ∨ c = '\r'

end SourceFile

namespace IsLine

variable {f : SourceFile} {n : Nat} {before line rest : List Char}
  (h : IsLine f.text n before line rest)

include h

theorem lineStart? : f.lineStart? n = some (byteLength before) := by
  rw [← h.count_eq]
  exact f.lineStart?_count (h.text_eq.trans (List.append_assoc _ _ _)) h.endsLine

/-- Behind a line is the end of the text, or its line feed. -/
theorem eq_nil_or_eq_cons : rest = [] ∨ ∃ more, rest = '\n' :: more := by
  cases rest with
  | nil => exact .inl rfl
  | cons c more =>
    obtain rfl : c = '\n' := h.head?_eq c rfl
    exact .inr ⟨more, rfl⟩

theorem eq_newline_of_mem_take {c : Char} (hc : c ∈ rest.take 1) : c = '\n' := by
  rcases h.eq_nil_or_eq_cons with rfl | ⟨more, rfl⟩
  · cases hc
  · exact List.mem_singleton.1 hc

theorem getD_lineStart? :
    (f.lineStart? (n + 1)).getD f.size = byteLength (before ++ (line ++ rest.take 1)) := by
  rw [← h.count_eq]
  exact f.getD_lineStart?_count h.text_eq h.newline_notMem h.head?_eq

theorem fullLine? : f.fullLine? (n + 1) = some (line ++ rest.take 1) := by
  rw [← h.count_eq]
  exact f.fullLine?_count h.text_eq h.newline_notMem h.head?_eq h.endsLine

theorem lineAt? : f.lineAt? (n + 1) = some (withoutTerminators line) := by
  rw [← h.count_eq]
  exact f.lineAt?_count h.text_eq h.newline_notMem h.head?_eq h.endsLine

theorem showsLine : f.ShowsLine (n + 1) (withoutTerminators line) := by
  have hcut : withoutTerminators line ++ line.rtakeWhile SourceFile.isTerminator = line :=
    List.rdropWhile_append_rtakeWhile
  refine ⟨before, line.rtakeWhile SourceFile.isTerminator ++ rest.take 1, rest.drop 1, ?_,
    h.lineStart?, ?_, fun hmem => ?_, fun c hc => ?_⟩
  · rw [List.append_assoc _ (rest.take 1), List.take_append_drop, ← List.append_assoc _ _ rest,
      hcut, h.text_eq, List.append_assoc]
  · rw [h.getD_lineStart?, ← List.append_assoc (withoutTerminators line), hcut]
  · rw [← hcut] at h
    exact h.newline_notMem (List.mem_append_left _ hmem)
  · rcases List.mem_append.1 hc with hc | hc
    · simpa [SourceFile.isTerminator] using List.mem_rtakeWhile_imp hc
    · exact .inl (h.eq_newline_of_mem_take hc)

end IsLine

namespace SourceFile

variable (f : SourceFile) {n : Nat}

theorem checkLine_eq_ok_iff : f.checkLine n = .ok () ↔ 1 ≤ n ∧ n ≤ f.lineCount := by
  unfold checkLine
  split_ifs with hn
  · refine iff_of_false ?_ (by omega)
    rintro ⟨⟩
  · exact iff_of_true rfl (by omega)

/-- Only the lines from 1 to their number can be asked for. -/
theorem exists_isLine_of_fullLine? {line : List Char} (h : f.fullLine? n = some line) :
    ∃ i before whole rest, n = i + 1 ∧ IsLine f.text i before whole rest ∧
      line = whole ++ rest.take 1 := by
  cases n with
  | zero => cases h
  | succ i =>
    have hle : i ≤ f.text.count '\n' := by
      by_contra hlt
      rw [fullLine?, Nat.add_sub_cancel, f.lineStart?_eq_none (Nat.lt_of_not_le hlt)] at h
      cases h
    obtain ⟨before, whole, rest, hline⟩ := exists_isLine hle
    rw [hline.fullLine?] at h
    exact ⟨i, before, whole, rest, rfl, hline, (Option.some.inj h).symm⟩

theorem exists_isLine_of_lineAt? {line : List Char} (h : f.lineAt? n = some line) :
    ∃ i before whole rest, n = i + 1 ∧ IsLine f.text i before whole rest ∧
      line = withoutTerminators whole := by
  rw [f.lineAt?_eq_map] at h
  obtain ⟨full, hfull, -⟩ := Option.map_eq_some_iff.1 h
  obtain ⟨i, before, whole, rest, rfl, hline, -⟩ := f.exists_isLine_of_fullLine? hfull
  rw [← f.lineAt?_eq_map, hline.lineAt?] at h
  exact ⟨i, before, whole, rest, rfl, hline, (Option.some.inj h).symm⟩

theorem lineAt?_isSome_iff : (f.lineAt? n).isSome ↔ 1 ≤ n ∧ n ≤ f.lineCount := by
  rw [f.lineCount_eq]
  constructor
  · intro h
    obtain ⟨line, hline⟩ := Option.isSome_iff_exists.1 h
    obtain ⟨i, before, whole, rest, rfl, hwhole, -⟩ := f.exists_isLine_of_lineAt? hline
    have hle : i ≤ f.text.count '\n' := f.le_of_lineStart?_eq_some hwhole.lineStart?
    omega
  · rintro ⟨hpos, hle⟩
    obtain ⟨i, rfl⟩ := Nat.exists_eq_add_of_le' hpos
    obtain ⟨before, line, rest, hline⟩ := exists_isLine (Nat.le_of_succ_le_succ hle)
    rw [hline.lineAt?]
    rfl

/-- The lines of a file by number: their starts increase and cut the text, every position lies in
its line, and the lines from 1 to their number, and no others, are found, each where it starts and
up to where the next one does. -/
structure IsPartitioned : Prop where
  holds : ∀ offset, f.Holds (f.positionAt offset)
  offset_eq : ∀ offset, (f.positionAt offset).offset = min offset f.size
  lineCount_eq : f.lineCount = f.text.count '\n' + 1
  increasing : ∀ m n start next, m < n → f.lineStart? m = some start → f.lineStart? n = some next →
    start < next
  cuts : ∀ n start, f.lineStart? n = some start →
    ∃ before after, f.text = before ++ after ∧ byteLength before = start ∧ EndsLine before ∧
      before.count '\n' = n
  checkLine_iff : ∀ n, f.checkLine n = .ok () ↔ (f.lineAt? n).isSome
  lineAt?_iff : ∀ n, (f.lineAt? n).isSome ↔ 1 ≤ n ∧ n ≤ f.lineCount
  showsLine : ∀ n line, f.lineAt? n = some line → f.ShowsLine n line

/-- Whatever a file holds, its line table cuts it into its lines. -/
theorem lines_partition (f : SourceFile) : f.IsPartitioned where
  holds := f.holds_positionAt
  offset_eq := f.offset_positionAt
  lineCount_eq := f.lineCount_eq
  increasing _ _ _ _ hlt hm hn := f.lineStart?_lt hlt hm hn
  cuts n start hstart := by
    obtain ⟨before, line, rest, hline⟩ := exists_isLine (f.le_of_lineStart?_eq_some hstart)
    rw [hline.lineStart?] at hstart
    exact ⟨before, line ++ rest, hline.text_eq.trans (List.append_assoc _ _ _),
      Option.some.inj hstart, hline.endsLine, hline.count_eq⟩
  checkLine_iff n := f.checkLine_eq_ok_iff.trans f.lineAt?_isSome_iff.symm
  lineAt?_iff n := f.lineAt?_isSome_iff
  showsLine n line hat := by
    obtain ⟨i, before, whole, rest, rfl, hline, rfl⟩ := f.exists_isLine_of_lineAt? hat
    exact hline.showsLine

end SourceFile

end Lexicon.Source
