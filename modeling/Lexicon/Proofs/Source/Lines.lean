import Lexicon.Proofs.Source.Position
import Mathlib.Data.List.DropRight
import Mathlib.Data.Option.Basic

/-!
# The lines of a file

The line table has the start of every line (`lineStart?_count`), and a line that the text is cut
into is found under its number, with what ends it (`fullLine?_count`) and without the terminators
at its end (`lineAt?_count`).
-/

namespace Lexicon.Source

open Text

/-- A line without the terminators at its end. -/
def withoutTerminators (line : List Char) : List Char :=
  line.rdropWhile SourceFile.isTerminator

/-- Behind a part without terminators only what follows it is cut off. -/
theorem exists_withoutTerminators_append {part : List Char} (hne : part ≠ [])
    (hpart : ∀ c ∈ part, SourceFile.isTerminator c = false) (front back : List Char) :
    ∃ kept, kept <+: back ∧
      withoutTerminators (front ++ part ++ back) = front ++ part ++ kept := by
  induction back using List.reverseRecOn with
  | nil =>
    refine ⟨[], List.nil_prefix, ?_⟩
    rw [List.append_nil, withoutTerminators, List.rdropWhile_eq_self_iff]
    intro hl
    rw [List.getLast_append_of_right_ne_nil _ _ hne, hpart _ (List.getLast_mem hne)]
    exact Bool.false_ne_true
  | append_singleton back c ih =>
    rw [withoutTerminators, ← List.append_assoc, List.rdropWhile_concat]
    split_ifs
    · obtain ⟨kept, hkept, htrim⟩ := ih
      exact ⟨kept, hkept.trans (List.prefix_append back [c]), htrim⟩
    · exact ⟨back ++ [c], List.prefix_refl _, List.append_assoc _ _ _⟩

namespace SourceFile

variable (f : SourceFile) {before line rest : List Char}

theorem lineCount_eq : f.lineCount = f.text.count '\n' + 1 := by
  rw [lineCount, f.starts_eq, List.size_toArray, length_lineStarts]

theorem lineStart?_count (h : f.text = before ++ rest) (hb : EndsLine before) :
    f.lineStart? (before.count '\n') = some (byteLength before) := by
  have hnil : '\n' ∉ ([] : List Char) := List.not_mem_nil
  have hstart := getLast?_lineStarts hb hnil
  rw [List.append_nil] at hstart
  rw [lineStart?, f.starts_eq, List.getElem?_toArray, h, lineStarts_append,
    List.getElem?_append_left (List.getElem?_eq_some_iff.1 hstart).1, hstart]

theorem lineStart?_eq_none {n : Nat} (h : f.text.count '\n' < n) : f.lineStart? n = none := by
  rw [lineStart?, f.starts_eq, List.getElem?_toArray, List.getElem?_eq_none_iff, length_lineStarts]
  exact h

/-- The text of a line, counted from 1, with its terminator. -/
def fullLine? (f : SourceFile) (n : Nat) : Option (List Char) := do
  guard (0 < n)
  let start ← f.lineStart? (n - 1)
  slice? f.text start ((f.lineStart? n).getD f.size)

theorem lineAt?_eq_map (n : Nat) : f.lineAt? n = (f.fullLine? n).map withoutTerminators := by
  have hmap : (fun line => pure (line.reverse.dropWhile isTerminator).reverse) =
      some ∘ withoutTerminators := rfl
  unfold lineAt? fullLine?
  simp only [hmap, Option.bind_eq_bind, Option.map_eq_bind, Option.bind_assoc]

theorem fullLine?_of_slice? {n start stop : Nat} {text : List Char}
    (hstart : f.lineStart? n = some start) (hstop : (f.lineStart? (n + 1)).getD f.size = stop)
    (hslice : slice? f.text start stop = some text) : f.fullLine? (n + 1) = some text := by
  have hguard : (guard (0 < n + 1) : Option Unit) = some () := if_pos n.succ_pos
  rw [fullLine?, hguard, Nat.add_sub_cancel, hstart, hstop]
  exact hslice

section Cut

variable (h : f.text = before ++ line ++ rest) (hl : '\n' ∉ line)
  (hr : ∀ c ∈ rest.head?, c = '\n')

include h hl hr

/-- A line goes on to behind its line feed, or to the end of the text. -/
theorem getD_lineStart?_count :
    (f.lineStart? (before.count '\n' + 1)).getD f.size =
      byteLength (before ++ (line ++ rest.take 1)) := by
  have hline : (before ++ line).count '\n' = before.count '\n' := by
    rw [List.count_append, List.count_eq_zero.2 hl, Nat.add_zero]
  cases rest with
  | nil =>
    rw [List.append_nil] at h
    have hnext : f.lineStart? (before.count '\n' + 1) = none := by
      apply f.lineStart?_eq_none
      rw [h, hline]
      exact Nat.lt_succ_self _
    rw [hnext, Option.getD_none, f.size_eq, h, List.take_nil, List.append_nil]
  | cons c more =>
    obtain rfl : c = '\n' := hr c rfl
    have hcut : f.text = before ++ line ++ ['\n'] ++ more := by
      rw [h, List.append_assoc _ ['\n'], List.singleton_append]
    have hcount := f.lineStart?_count hcut (endsLine_append_newline _)
    rw [List.count_append, hline, List.count_singleton_self, List.append_assoc] at hcount
    rw [hcount, Option.getD_some]
    rfl

variable (hb : EndsLine before)

include hb

theorem fullLine?_count : f.fullLine? (before.count '\n' + 1) = some (line ++ rest.take 1) := by
  have hstart : f.lineStart? (before.count '\n') = some (byteLength before) :=
    f.lineStart?_count (h.trans (List.append_assoc _ _ _)) hb
  refine f.fullLine?_of_slice? hstart (f.getD_lineStart?_count h hl hr) ?_
  refine slice?_eq_some_iff.2 ⟨before, rest.drop 1, ?_, rfl, (byteLength_append _ _).symm⟩
  simp only [h, List.append_assoc, List.take_append_drop]

/-- A line of the text, between a line start and the next line feed or the end. -/
theorem lineAt?_count :
    f.lineAt? (before.count '\n' + 1) = some (withoutTerminators line) := by
  rw [f.lineAt?_eq_map, f.fullLine?_count h hl hr hb, Option.map_some]
  cases rest with
  | nil => rw [List.take_nil, List.append_nil]
  | cons c more =>
    obtain rfl : c = '\n' := hr c rfl
    exact congrArg some (List.rdropWhile_concat_pos _ _ _ rfl)

end Cut

/-- A part of the text without terminators stands in the line of its first character, in the column
of that character. -/
theorem exists_lineAt?_of_part {front part back : List Char} (h : f.text = front ++ part ++ back)
    (hne : part ≠ []) (hpart : ∀ c ∈ part, isTerminator c = false) :
    ∃ head kept, '\n' ∉ head ∧ '\n' ∉ kept ∧
      (Position.start.advanceOver front).column = head.length + 1 ∧
      f.lineAt? (Position.start.advanceOver front).line = some (head ++ part ++ kept) := by
  have hnewline : '\n' ∉ part := fun hmem => absurd (hpart _ hmem) (by decide)
  obtain ⟨before, head, rfl, hbefore, hhead⟩ := exists_lastLine front
  -- The line goes on to the next line feed, or to the end of the text.
  have htail : '\n' ∉ back.takeWhile (· != '\n') := fun hmem =>
    absurd (List.mem_takeWhile_imp hmem) (by decide)
  have hend : ∀ c ∈ (back.dropWhile (· != '\n')).head?, c = '\n' := by
    intro c hc
    have := List.head?_dropWhile_not (· != '\n') back
    rw [Option.mem_def.1 hc] at this
    simpa using this
  have hcut : f.text = before ++ (head ++ part ++ back.takeWhile (· != '\n')) ++
      back.dropWhile (· != '\n') := by
    simp only [h, List.append_assoc, List.takeWhile_append_dropWhile]
  have hline : '\n' ∉ head ++ part ++ back.takeWhile (· != '\n') := by
    simp [hhead, hnewline, htail]
  obtain ⟨kept, hkept, htrim⟩ :=
    exists_withoutTerminators_append hne hpart head (back.takeWhile (· != '\n'))
  have hat := f.lineAt?_count hcut hline hend hbefore
  rw [htrim] at hat
  refine ⟨head, kept, hhead, fun hmem => htail (hkept.subset hmem), ?_, ?_⟩
  · rw [Position.advanceOver_start hbefore hhead]
  · rw [Position.advanceOver_start hbefore hhead]
    simpa only [List.count_append, List.count_eq_zero.2 hhead, Nat.add_zero] using hat

end SourceFile

end Lexicon.Source
