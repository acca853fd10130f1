import Lexicon.Proofs.Source.LineTable

/-!
# Order of positions

Of two offsets the later one is not in an earlier line, and where it is the end of a character it is
not in an earlier column either (`line_positionAt_le`, `upTo_or_fallsBack`).  An offset within a
character has the first column, also where characters stand before it on its line; so it comes
before the ends of these (`FallsBack.not_upTo`).  In all other cases the positions of offsets are
ordered as the offsets are (`positionAt_upTo_iff`).
-/

namespace Lexicon.Source

open Text

namespace Position

/-- In the order of lines, and of columns within a line, `p` does not come behind `q`. -/
def UpTo (p q : Position) : Prop := p.line < q.line ∨ p.line = q.line ∧ p.column ≤ q.column

instance (p q : Position) : Decidable (p.UpTo q) :=
  inferInstanceAs (Decidable (_ ∨ _ ∧ _))

theorem one_le_column_advanceOver_start (text : List Char) :
    1 ≤ (start.advanceOver text).column := by
  obtain ⟨before, line, rfl, hb, hl⟩ := exists_lastLine text
  rw [advanceOver_start hb hl]
  exact Nat.le_add_left 1 line.length

/-- The first column is that of the start of a line. -/
theorem column_advanceOver_start_eq_one_iff (text : List Char) :
    (start.advanceOver text).column = 1 ↔ EndsLine text := by
  refine ⟨fun h => ?_, column_advanceOver_of_endsLine⟩
  obtain ⟨before, line, rfl, hb, hl⟩ := exists_lastLine text
  rw [advanceOver_start hb hl] at h
  obtain rfl : line = [] := List.length_eq_zero_iff.1 (Nat.succ.inj h)
  rwa [List.append_nil]

end Position

/-- Offset `a` lies behind characters of a line, and offset `b` within a later character of it. -/
def FallsBack (text : List Char) (a b : Nat) : Prop :=
  ∃ before part c rest, text = before ++ (part ++ c :: rest) ∧ ¬ EndsLine before ∧ '\n' ∉ part ∧
    byteLength before = a ∧ byteLength (before ++ part) < b ∧
    b < byteLength (before ++ part) + c.utf8Size

open SourceFile

variable {f : SourceFile} {a b : Nat}

theorem line_positionAt_le (h : a ≤ b) : (f.positionAt a).line ≤ (f.positionAt b).line := by
  obtain ⟨before, after, ha⟩ := exists_liesBehind f.text a
  obtain ⟨before', after', hb⟩ := exists_liesBehind f.text b
  obtain ⟨part, rfl⟩ := ha.prefix_of_le hb h
  rw [line_positionAt ha, line_positionAt hb, List.count_append]
  omega

/-- Within a later character of the line stands the first column again. -/
theorem FallsBack.not_upTo (h : FallsBack f.text a b) :
    ¬ (f.positionAt a).UpTo (f.positionAt b) := by
  obtain ⟨before, part, c, rest, htext, hends, hpart, rfl, hlo, hhi⟩ := h
  have htext' : f.text = (before ++ part) ++ c :: rest := by rw [htext, List.append_assoc]
  have hb : LiesBehind f.text b (before ++ part) (c :: rest) := by
    refine ⟨htext', hlo.le, ?_⟩
    rintro _ ⟨⟩
    exact hhi
  have hinside : min b f.size ≠ byteLength (before ++ part) := by
    have hsize := f.size_eq
    rw [htext', byteLength_append _ (c :: rest), byteLength_cons] at hsize
    omega
  have hline : (before ++ part).count '\n' = before.count '\n' := by
    rw [List.count_append, List.count_eq_zero.2 hpart, Nat.add_zero]
  have hcolumn : (Position.start.advanceOver before).column ≠ 1 :=
    mt (Position.column_advanceOver_start_eq_one_iff before).1 hends
  have hpos := Position.one_le_column_advanceOver_start before
  have hstart : Position.start.line = 1 := rfl
  rw [f.positionAt_byteLength htext, positionAt_of_inside hb hinside, Position.UpTo,
    Position.line_advanceOver, hline, hstart]
  dsimp only
  omega

/-- Behind an offset in the text, all ends of characters have later positions, and so have the
offsets within characters unless the column falls back. -/
theorem upTo_or_fallsBack (h : a ≤ b) :
    (f.positionAt a).UpTo (f.positionAt b) ∨ FallsBack f.text a b := by
  obtain ⟨before, after, ha⟩ := exists_liesBehind f.text a
  obtain ⟨before', after', hb⟩ := exists_liesBehind f.text b
  obtain ⟨part, rfl⟩ := ha.prefix_of_le hb h
  have hlineA := line_positionAt ha
  have hlineB := line_positionAt hb
  rw [List.count_append] at hlineB
  by_cases hpart : '\n' ∈ part
  · have := List.count_pos_iff.2 hpart
    exact .inl (.inl (by omega))
  have hline : (f.positionAt a).line = (f.positionAt b).line := by
    rw [hlineA, hlineB, List.count_eq_zero.2 hpart, Nat.add_zero]
  by_cases hbetweenA : min a f.size = byteLength before
  · by_cases hbetweenB : min b f.size = byteLength (before ++ part)
    · refine .inl (.inr ⟨hline, ?_⟩)
      rw [positionAt_of_between ha hbetweenA, positionAt_of_between hb hbetweenB,
        Position.advanceOver_append, Position.column_advanceOver_of_notMem _ hpart]
      exact Nat.le_add_right _ _
    by_cases hends : EndsLine before
    · refine .inl (.inr ⟨hline, ?_⟩)
      rw [positionAt_of_between ha hbetweenA, positionAt_of_inside hb hbetweenB,
        Position.column_advanceOver_of_endsLine hends]
    · -- Within a character, so there is one, and the offset in front is no end of the text.
      right
      have hsize := f.size_eq
      have hle := hb.le
      rw [hb.text_eq, byteLength_append] at hsize
      cases after' with
      | nil =>
        rw [byteLength_nil] at hsize
        omega
      | cons c rest =>
        have hlt := hb.lt c rfl
        have hlength := byteLength_append before part
        rw [byteLength_cons] at hsize
        refine ⟨before, part, c, rest, ?_, hends, hpart, by omega, by omega, hlt⟩
        rw [hb.text_eq, List.append_assoc]
  · refine .inl (.inr ⟨hline, ?_⟩)
    rw [positionAt_of_inside ha hbetweenA]
    by_cases hbetweenB : min b f.size = byteLength (before ++ part)
    · rw [positionAt_of_between hb hbetweenB]
      exact Position.one_le_column_advanceOver_start _
    · rw [positionAt_of_inside hb hbetweenB]

/-- Of two offsets the later one has the later position, except where the column falls back within a
character. -/
theorem positionAt_upTo_iff (f : SourceFile) {a b : Nat} (h : a ≤ b) :
    (f.positionAt a).line ≤ (f.positionAt b).line ∧
      ((f.positionAt a).UpTo (f.positionAt b) ↔ ¬ FallsBack f.text a b) := by
  refine ⟨line_positionAt_le h, fun hup hback => hback.not_upTo hup, fun hback => ?_⟩
  exact (upTo_or_fallsBack h).resolve_right hback

/-- Offsets within two characters of one line, of which the first one begins the line. -/
theorem positionAt_upTo_iff_within_characters :
    ∃ f : SourceFile, f.text = "éé".toList ∧ 1 ≤ 3 ∧ (f.positionAt 1).line ≤ (f.positionAt 3).line ∧
      ((f.positionAt 1).UpTo (f.positionAt 3) ↔ ¬ FallsBack f.text 1 3) ∧
      (f.positionAt 1).UpTo (f.positionAt 3) := by
  have hone : (1 : Nat) ≤ 3 := by decide
  have hup : (SourceFile.positionAt { id := 0, name := "a", text := "éé".toList } 1).UpTo
      (SourceFile.positionAt { id := 0, name := "a", text := "éé".toList } 3) := by
    decide +kernel
  obtain ⟨hline, hiff⟩ := positionAt_upTo_iff { id := 0, name := "a", text := "éé".toList } hone
  exact ⟨_, rfl, hone, hline, hiff, hup⟩

/-- Behind a letter, the second byte of a character is in the first column. -/
theorem positionAt_within_character :
    ∃ f : SourceFile, f.text = "aé".toList ∧ f.positionAt 1 = ⟨1, 1, 2⟩ ∧
      f.positionAt 2 = ⟨2, 1, 1⟩ ∧ ¬ (f.positionAt 1).UpTo (f.positionAt 2) := by
  refine ⟨{ id := 0, name := "a", text := "aé".toList }, rfl, ?_⟩
  decide +kernel

end Lexicon.Source
