import Lexicon.Proofs.Source.LineTable
import Mathlib.Algebra.Order.BigOperators.Group.List
import Mathlib.Algebra.Order.Group.Nat

/-!
# Line terminators

A line feed ends a line, together with a carriage return right before it (`terminatorOf`), and only
the last line of a text has no terminator.  With their terminators the lines make up the text
(`flatMap_fullLine?`).  A line that is asked for by its number comes without its terminator, but
also without all carriage returns before it.  So it is what the terminator leaves of the line where
that has no carriage return at its end, and nowhere else (`lines_without_terminators`).
-/

namespace Lexicon.Source

open Text

/-! ## The terminator of a line -/

/-- What ends a line, which is nothing at the end of a text. -/
def terminatorOf (line : List Char) : List Char :=
  if ['\r', '\n'] <:+ line then ['\r', '\n'] else if ['\n'] <:+ line then ['\n'] else []

/-- A line without its terminator. -/
def contentOf (line : List Char) : List Char :=
  line.take (line.length - (terminatorOf line).length)

variable {line : List Char}

theorem terminatorOf_suffix (line : List Char) : terminatorOf line <:+ line := by
  rw [terminatorOf]
  split_ifs with hboth hfeed
  · exact hboth
  · exact hfeed
  · exact List.nil_suffix

theorem contentOf_append_terminatorOf (line : List Char) :
    contentOf line ++ terminatorOf line = line := by
  obtain ⟨content, hcontent⟩ := terminatorOf_suffix line
  have hlength : line.length - (terminatorOf line).length = content.length := by
    have := congrArg List.length hcontent
    rw [List.length_append] at this
    omega
  have htake : contentOf line = content := by
    rw [contentOf, hlength]
    conv_lhs => rw [← hcontent]
    exact List.take_left
  rw [htake, hcontent]

theorem terminatorOf_of_notMem (h : '\n' ∉ line) : terminatorOf line = [] := by
  have hboth : ¬ ['\r', '\n'] <:+ line := fun hs => h (hs.subset (by decide))
  have hfeed : ¬ ['\n'] <:+ line := fun hs => h (hs.subset (by decide))
  rw [terminatorOf, if_neg hboth, if_neg hfeed]

/-- To a line feed at the end belongs at most the carriage return before it. -/
theorem exists_terminatorOf_concat (line : List Char) :
    ∃ part, (part = [] ∨ part = ['\r']) ∧ terminatorOf (line ++ ['\n']) = part ++ ['\n'] := by
  have hfeed : ['\n'] <:+ line ++ ['\n'] := List.suffix_append line ['\n']
  rw [terminatorOf, if_pos hfeed]
  split_ifs
  · exact ⟨['\r'], .inr rfl, rfl⟩
  · exact ⟨[], .inl rfl, rfl⟩

/-- Of a line without line feeds only carriage returns are cut off. -/
theorem withoutTerminators_of_notMem (h : '\n' ∉ line) :
    withoutTerminators line = line.rdropWhile (· == '\r') := by
  induction line using List.reverseRecOn with
  | nil => rfl
  | append_singleton line c ih =>
    rw [List.mem_append, List.mem_singleton, not_or] at h
    have hc : SourceFile.isTerminator c = (c == '\r') := by
      rw [SourceFile.isTerminator, beq_false_of_ne (Ne.symm h.2), Bool.false_or]
    have hline := ih h.1
    rw [withoutTerminators] at hline
    rw [withoutTerminators, List.rdropWhile_concat, List.rdropWhile_concat, hc, hline]

theorem rdropWhile_eq_self_iff_getLast? (line : List Char) :
    line.rdropWhile (· == '\r') = line ↔ line.getLast? ≠ some '\r' := by
  induction line using List.reverseRecOn with
  | nil => simp
  | append_singleton line c ih => simp [List.rdropWhile_eq_self_iff]

namespace IsLine

variable {f : SourceFile} {n : Nat} {before line rest : List Char}
  (h : IsLine f.text n before line rest)

include h

/-- Behind what the terminator leaves of a line stands at most the carriage return of it. -/
theorem exists_contentOf_append :
    ∃ part, (part = [] ∨ part = ['\r']) ∧ contentOf (line ++ rest.take 1) ++ part = line := by
  rcases h.eq_nil_or_eq_cons with rfl | ⟨more, rfl⟩
  · have hcontent := contentOf_append_terminatorOf line
    rw [terminatorOf_of_notMem h.newline_notMem] at hcontent
    rw [List.take_nil, List.append_nil]
    exact ⟨[], .inl rfl, hcontent⟩
  · obtain ⟨part, hpart, hterminator⟩ := exists_terminatorOf_concat line
    have hcontent := contentOf_append_terminatorOf (line ++ ['\n'])
    rw [hterminator, ← List.append_assoc] at hcontent
    exact ⟨part, hpart, List.append_cancel_right hcontent⟩

/-- With the terminator all carriage returns before it are cut off. -/
theorem lineAt?_eq_contentOf :
    f.lineAt? (n + 1) = some ((contentOf (line ++ rest.take 1)).rdropWhile (· == '\r')) := by
  rw [h.lineAt?, withoutTerminators_of_notMem h.newline_notMem]
  obtain ⟨part, rfl | rfl, hline⟩ := h.exists_contentOf_append
  · rw [List.append_nil] at hline
    rw [hline]
  · conv_lhs => rw [← hline]
    rw [List.rdropWhile_concat_pos _ _ _ rfl]

/-- The last line, and no other, goes on to the end of the text. -/
theorem count_eq_iff : n = f.text.count '\n' ↔ rest = [] := by
  rw [h.text_eq, List.count_append, List.count_append, h.count_eq,
    List.count_eq_zero.2 h.newline_notMem]
  rcases h.eq_nil_or_eq_cons with rfl | ⟨more, rfl⟩
  · exact iff_of_true rfl rfl
  · rw [List.count_cons_self]
    exact iff_of_false (by omega) (List.cons_ne_nil _ _)

theorem terminatorOf_eq_nil_iff :
    terminatorOf (line ++ rest.take 1) = [] ↔ n + 1 = f.lineCount := by
  rw [f.lineCount_eq, Nat.add_right_cancel_iff, h.count_eq_iff]
  rcases h.eq_nil_or_eq_cons with rfl | ⟨more, rfl⟩
  · rw [List.take_nil, List.append_nil]
    exact iff_of_true (terminatorOf_of_notMem h.newline_notMem) rfl
  · obtain ⟨part, -, hterminator⟩ := exists_terminatorOf_concat line
    rw [List.take_succ_cons, List.take_zero, hterminator]
    exact iff_of_false (List.append_ne_nil_of_right_ne_nil part (List.cons_ne_nil _ _))
      (List.cons_ne_nil _ _)

/-- The next line begins where this one ends with its terminator. -/
theorem before_eq {before' line' rest' : List Char}
    (h' : IsLine f.text (n + 1) before' line' rest') :
    before' = before ++ (line ++ rest.take 1) := by
  have hstart := h.getD_lineStart?
  rw [h'.lineStart?, Option.getD_some] at hstart
  have hcut : before' ++ (line' ++ rest') = before ++ (line ++ rest.take 1) ++ rest.drop 1 := by
    rw [← List.append_assoc, ← h'.text_eq, h.text_eq]
    simp only [List.append_assoc, List.take_append_drop]
  exact (append_inj_of_byteLength hcut hstart).1

end IsLine

namespace SourceFile

variable (f : SourceFile)

/-! ## Lines with their terminators -/

/-- The lines in front of a line, with their terminators, are what stands before it. -/
theorem flatMap_fullLine?_range {n : Nat} {before line rest : List Char}
    (h : IsLine f.text n before line rest) :
    ((List.range n).flatMap fun i => (f.fullLine? (i + 1)).getD []) = before := by
  induction n generalizing before line rest with
  | zero =>
    rcases h.endsLine with rfl | ⟨above, rfl⟩
    · rfl
    · have hcount := h.count_eq
      rw [List.count_append, List.count_singleton_self] at hcount
      omega
  | succ n ih =>
    have hle : n + 1 ≤ f.text.count '\n' := f.le_of_lineStart?_eq_some h.lineStart?
    obtain ⟨before', line', rest', h'⟩ := exists_isLine (Nat.le_of_succ_le hle)
    rw [List.range_succ, List.flatMap_append, ih h', List.flatMap_singleton, h'.fullLine?,
      Option.getD_some, h'.before_eq h]

theorem flatMap_fullLine? :
    ((List.range f.lineCount).flatMap fun i => (f.fullLine? (i + 1)).getD []) = f.text := by
  obtain ⟨before, line, rest, h⟩ := exists_isLine (le_refl (f.text.count '\n'))
  obtain rfl : rest = [] := h.count_eq_iff.1 rfl
  rw [f.lineCount_eq, List.range_succ, List.flatMap_append, f.flatMap_fullLine?_range h,
    List.flatMap_singleton, h.fullLine?, Option.getD_some, List.take_nil, ← List.append_assoc,
    ← h.text_eq]

/-! ## Lines as they are asked for -/

/-- Parts that are no longer than those of the same text are the same parts. -/
theorem eq_of_flatMap_eq {α β : Type} {l : List α} {g h : α → List β}
    (hle : ∀ i ∈ l, (g i).length ≤ (h i).length) (heq : l.flatMap g = l.flatMap h) :
    ∀ i ∈ l, g i = h i := by
  induction l with
  | nil => exact List.forall_mem_nil _
  | cons i l ih =>
    rw [List.forall_mem_cons] at hle
    rw [List.flatMap_cons, List.flatMap_cons] at heq
    have htail : (l.flatMap g).length ≤ (l.flatMap h).length := by
      rw [List.length_flatMap, List.length_flatMap]
      exact List.sum_le_sum hle.2
    have hlength := congrArg List.length heq
    rw [List.length_append, List.length_append] at hlength
    obtain ⟨hhead, htail⟩ := List.append_inj heq (by omega)
    exact List.forall_mem_cons.2 ⟨hhead, ih hle.2 htail⟩

/-- A line as it is asked for, with the terminator that the text has behind it. -/
def terminatedLine (n : Nat) : List Char :=
  (f.lineAt? n).getD [] ++ terminatorOf ((f.fullLine? n).getD [])

variable {f} {n : Nat} {line : List Char}

theorem lineAt?_of_fullLine? (h : f.fullLine? n = some line) :
    f.lineAt? n = some ((contentOf line).rdropWhile (· == '\r')) := by
  obtain ⟨i, before, whole, rest, rfl, hline, rfl⟩ := f.exists_isLine_of_fullLine? h
  exact hline.lineAt?_eq_contentOf

theorem lineAt?_eq_contentOf_iff (h : f.fullLine? n = some line) :
    f.lineAt? n = some (contentOf line) ↔ (contentOf line).getLast? ≠ some '\r' := by
  rw [lineAt?_of_fullLine? h, Option.some_inj, rdropWhile_eq_self_iff_getLast?]

theorem length_terminatedLine_le (f : SourceFile) (n : Nat) :
    (f.terminatedLine n).length ≤ ((f.fullLine? n).getD []).length := by
  rw [terminatedLine]
  cases h : f.fullLine? n with
  | none =>
    rw [f.lineAt?_eq_map, h]
    exact le_refl 0
  | some line =>
    rw [lineAt?_of_fullLine? h, Option.getD_some, Option.getD_some]
    conv_rhs => rw [← contentOf_append_terminatorOf line]
    rw [List.length_append, List.length_append]
    exact Nat.add_le_add_right (List.rdropWhile_prefix _ _).length_le _

theorem terminatedLine_eq_iff (h : f.fullLine? n = some line) :
    f.terminatedLine n = line ↔ (contentOf line).getLast? ≠ some '\r' := by
  rw [← rdropWhile_eq_self_iff_getLast?, terminatedLine, h, lineAt?_of_fullLine? h,
    Option.getD_some, Option.getD_some]
  conv_lhs => rhs; rw [← contentOf_append_terminatorOf line]
  exact List.append_left_inj _

/-- With their terminators the lines of a file make up its text, and only the last one has none.  A
line is found without its terminator, and without the carriage returns that are then left at its
end; so where no line has any, and only there, the lines that are found make up the text. -/
structure CutsReturns (f : SourceFile) : Prop where
  fullLine?_iff : ∀ n, (f.fullLine? n).isSome ↔ 1 ≤ n ∧ n ≤ f.lineCount
  terminatorOf_eq_nil_iff : ∀ n line, f.fullLine? n = some line →
    (terminatorOf line = [] ↔ n = f.lineCount)
  fullLines_eq : ((List.range f.lineCount).flatMap fun i => (f.fullLine? (i + 1)).getD []) = f.text
  lineAt?_eq : ∀ n line, f.fullLine? n = some line →
    f.lineAt? n = some ((contentOf line).rdropWhile (· == '\r'))
  lineAt?_eq_contentOf_iff : ∀ n line, f.fullLine? n = some line →
    (f.lineAt? n = some (contentOf line) ↔ (contentOf line).getLast? ≠ some '\r')
  terminatedLines_eq_iff :
    ((List.range f.lineCount).flatMap fun i => f.terminatedLine (i + 1)) = f.text ↔
      ∀ n line, f.fullLine? n = some line → (contentOf line).getLast? ≠ some '\r'

theorem fullLine?_isSome_iff (f : SourceFile) (n : Nat) :
    (f.fullLine? n).isSome ↔ 1 ≤ n ∧ n ≤ f.lineCount := by
  rw [← f.lineAt?_isSome_iff, f.lineAt?_eq_map, Option.isSome_map]

theorem flatMap_terminatedLine_eq_iff (f : SourceFile) :
    ((List.range f.lineCount).flatMap fun i => f.terminatedLine (i + 1)) = f.text ↔
      ∀ n line, f.fullLine? n = some line → (contentOf line).getLast? ≠ some '\r' := by
  constructor
  · intro htext n line hline
    have hsame := eq_of_flatMap_eq (fun i _ => f.length_terminatedLine_le (i + 1))
      (htext.trans f.flatMap_fullLine?.symm)
    obtain ⟨hpos, hle⟩ := (f.fullLine?_isSome_iff n).1 (hline ▸ rfl)
    obtain ⟨i, rfl⟩ := Nat.exists_eq_add_of_le' hpos
    have hi := hsame i (List.mem_range.2 hle)
    rw [hline, Option.getD_some] at hi
    exact (terminatedLine_eq_iff hline).1 hi
  · intro hreturns
    rw [← f.flatMap_fullLine?]
    refine List.flatMap_congr fun i hi => ?_
    obtain ⟨line, hline⟩ := Option.isSome_iff_exists.1
      ((f.fullLine?_isSome_iff (i + 1)).2 ⟨Nat.succ_pos i, List.mem_range.1 hi⟩)
    rw [(terminatedLine_eq_iff hline).2 (hreturns _ line hline), hline, Option.getD_some]

/-- Not only the terminator of a line is cut off, but all carriage returns before it. -/
theorem lines_without_terminators (f : SourceFile) : f.CutsReturns where
  fullLine?_iff := f.fullLine?_isSome_iff
  terminatorOf_eq_nil_iff n line hat := by
    obtain ⟨i, before, whole, rest, rfl, hline, rfl⟩ := f.exists_isLine_of_fullLine? hat
    exact hline.terminatorOf_eq_nil_iff
  fullLines_eq := f.flatMap_fullLine?
  lineAt?_eq _ _ hat := lineAt?_of_fullLine? hat
  lineAt?_eq_contentOf_iff _ _ hat := lineAt?_eq_contentOf_iff hat
  terminatedLines_eq_iff := f.flatMap_terminatedLine_eq_iff

/-- A carriage return before the terminator is lost, and so is one at the end of the text. -/
theorem lineAt?_drops_return :
    ∃ f : SourceFile, f.text = "a\r\r\nb\r".toList ∧ f.lineCount = 2 ∧
      f.fullLine? 1 = some "a\r\r\n".toList ∧ terminatorOf "a\r\r\n".toList = ['\r', '\n'] ∧
      f.lineAt? 1 = some "a".toList ∧
      f.fullLine? 2 = some "b\r".toList ∧ terminatorOf "b\r".toList = [] ∧
      f.lineAt? 2 = some "b".toList := by
  refine ⟨{ id := 0, name := "a", text := "a\r\r\nb\r".toList }, rfl, ?_⟩
  decide +kernel

end SourceFile

end Lexicon.Source
