import Lexicon.Source.File
import Mathlib.Data.List.Induction
import Mathlib.Tactic.ByContra
import Mathlib.Tactic.SplitIfs

/-!
# Positions in a text

A position that was moved over a text counts its bytes, its line feeds, and the characters since
the last of them (`offset_advanceOver`, `line_advanceOver`, `column_advanceOver`).  The line table
of a file finds the same position (`positionAt_byteLength`), and a span between two such positions
covers the text between them (`snippet_eq_ok`, `spanOf_advanceOver`).  Moving the starting point by
whole lines moves every position after it alike (`shift_advanceOver`).
-/

namespace Lexicon.Source

open Text

/-- A text behind which a line starts. -/
def EndsLine (text : List Char) : Prop := text = [] ∨ ∃ line, text = line ++ ['\n']

theorem endsLine_nil : EndsLine [] := Or.inl rfl

theorem endsLine_append_newline (line : List Char) : EndsLine (line ++ ['\n']) :=
  Or.inr ⟨line, rfl⟩

theorem EndsLine.of_append_of_ne_nil {a b : List Char} (h : EndsLine (a ++ b)) (hb : b ≠ []) :
    EndsLine b := by
  rcases h with h | ⟨line, h⟩
  · exact absurd (List.append_eq_nil_iff.1 h).2 hb
  · obtain ⟨last, c, rfl⟩ := List.eq_nil_or_concat b |>.resolve_left hb |>.imp fun _ h => h
    rw [List.concat_eq_append, ← List.append_assoc] at h
    obtain ⟨-, hc⟩ := List.append_inj' h rfl
    rw [List.concat_eq_append, hc]
    exact endsLine_append_newline last

theorem EndsLine.eq_newline {c : Char} (h : EndsLine [c]) : c = '\n' := by
  rcases h with h | ⟨line, h⟩
  · cases h
  · obtain ⟨-, hc⟩ := List.append_inj' (List.nil_append [c] |>.trans h) rfl
    exact List.singleton_inj.1 hc

/-- Every text is cut behind its last line feed. -/
theorem exists_lastLine (text : List Char) :
    ∃ before line, text = before ++ line ∧ EndsLine before ∧ '\n' ∉ line := by
  induction text using List.reverseRecOn with
  | nil => exact ⟨[], [], rfl, endsLine_nil, List.not_mem_nil⟩
  | append_singleton text c ih =>
    by_cases hc : c = '\n'
    · subst hc
      exact ⟨text ++ ['\n'], [], by rw [List.append_nil], endsLine_append_newline _,
        List.not_mem_nil⟩
    · obtain ⟨before, line, rfl, hb, hl⟩ := ih
      refine ⟨before, line ++ [c], List.append_assoc _ _ _, hb, ?_⟩
      simp [hl, Ne.symm hc]

namespace Position

theorem advanceOver_cons (p : Position) (c : Char) (text : List Char) :
    p.advanceOver (c :: text) = (p.advance c).advanceOver text := rfl

theorem advanceOver_append (p : Position) (a b : List Char) :
    p.advanceOver (a ++ b) = (p.advanceOver a).advanceOver b := List.foldl_append

theorem advanceOver_singleton (p : Position) (c : Char) : p.advanceOver [c] = p.advance c := rfl

theorem offset_advance (p : Position) (c : Char) :
    (p.advance c).offset = p.offset + c.utf8Size := by
  unfold advance
  split_ifs <;> rfl

theorem line_advance (p : Position) (c : Char) :
    (p.advance c).line = p.line + [c].count '\n' := by
  unfold advance
  split_ifs with hc
  · simp [hc]
  · simp [hc]

/-- Within a line the column is the number of characters passed. -/
theorem advance_of_ne (p : Position) {c : Char} (hc : c ≠ '\n') :
    p.advance c = ⟨p.offset + c.utf8Size, p.line, p.column + 1⟩ := if_neg hc

theorem offset_advanceOver (p : Position) (text : List Char) :
    (p.advanceOver text).offset = p.offset + byteLength text := by
  induction text generalizing p with
  | nil => rfl
  | cons c text ih => rw [advanceOver_cons, ih, offset_advance, byteLength_cons, Nat.add_assoc]

theorem offset_advanceOver_start (text : List Char) :
    (start.advanceOver text).offset = byteLength text := by
  rw [offset_advanceOver]
  exact Nat.zero_add _

theorem line_advanceOver (p : Position) (text : List Char) :
    (p.advanceOver text).line = p.line + text.count '\n' := by
  induction text generalizing p with
  | nil => rfl
  | cons c text ih =>
    rw [advanceOver_cons, ih, line_advance, Nat.add_assoc, ← List.count_append,
      List.singleton_append]

theorem column_advanceOver_of_notMem (p : Position) {text : List Char} (h : '\n' ∉ text) :
    (p.advanceOver text).column = p.column + text.length := by
  induction text generalizing p with
  | nil => rfl
  | cons c text ih =>
    rw [List.mem_cons, not_or] at h
    rw [advanceOver_cons, ih _ h.2, advance_of_ne _ (Ne.symm h.1), List.length_cons,
      Nat.add_assoc, Nat.add_comm 1]

/-- Behind a line feed stands the first column. -/
theorem column_advanceOver_of_endsLine {text : List Char} (h : EndsLine text) :
    (start.advanceOver text).column = 1 := by
  rcases h with rfl | ⟨line, rfl⟩
  · rfl
  · rw [advanceOver_append, advanceOver_singleton, advance, if_pos rfl]

/-- Behind `text` a file stands at its length, one line further for every line feed. -/
theorem advanceOver_start {text line : List Char} (h : EndsLine text) (hl : '\n' ∉ line) :
    start.advanceOver (text ++ line) =
      ⟨byteLength (text ++ line), (text ++ line).count '\n' + 1, line.length + 1⟩ := by
  have ho := offset_advanceOver start (text ++ line)
  have hn := line_advanceOver start (text ++ line)
  have hc := column_advanceOver_of_notMem (start.advanceOver text) hl
  rw [← advanceOver_append, column_advanceOver_of_endsLine h] at hc
  calc start.advanceOver (text ++ line)
      = ⟨(start.advanceOver (text ++ line)).offset, (start.advanceOver (text ++ line)).line,
          (start.advanceOver (text ++ line)).column⟩ := rfl
    _ = _ := by rw [ho, hn, hc]; simp [start, Nat.add_comm]

theorem offset_le_advanceOver (p : Position) (text : List Char) :
    p.offset ≤ (p.advanceOver text).offset := by
  rw [offset_advanceOver]
  exact Nat.le_add_right _ _

/-! ### Shifting -/

/-- The position `offset` bytes and `lines` lines further, in the same column. -/
def shift (offset lines : Nat) (p : Position) : Position :=
  ⟨p.offset + offset, p.line + lines, p.column⟩

theorem shift_advance (offset lines : Nat) (p : Position) (c : Char) :
    (p.shift offset lines).advance c = (p.advance c).shift offset lines := by
  unfold advance shift
  split_ifs
  · simp only [Position.mk.injEq, and_true]
    omega
  · simp only [Position.mk.injEq, and_true]
    omega

theorem shift_advanceOver (offset lines : Nat) (p : Position) (text : List Char) :
    (p.shift offset lines).advanceOver text = (p.advanceOver text).shift offset lines := by
  induction text generalizing p with
  | nil => rfl
  | cons c text ih => rw [advanceOver_cons, shift_advance, ih, advanceOver_cons]

/-- A text of whole lines moves the start of a file by its bytes and its line feeds. -/
theorem advanceOver_start_eq_shift {text : List Char} (h : EndsLine text) :
    start.advanceOver text = start.shift (byteLength text) (text.count '\n') := by
  have hnil : '\n' ∉ ([] : List Char) := List.not_mem_nil
  have := advanceOver_start h hnil
  rw [List.append_nil] at this
  rw [this]
  simp [shift, start, Nat.add_comm]

theorem shift_zero (p : Position) : p.shift 0 0 = p := rfl

end Position

/-- The span in another file, `offset` bytes and `lines` lines further. -/
def Span.moveTo (file : FileId) (offset lines : Nat) (s : Span) : Span :=
  ⟨s.lo.shift offset lines, s.hi.shift offset lines, file⟩

/-! ## The line table -/

theorem lineStartsFrom_append (offset : Nat) (a b : List Char) :
    lineStartsFrom offset (a ++ b) =
      lineStartsFrom offset a ++ lineStartsFrom (offset + byteLength a) b := by
  induction a generalizing offset with
  | nil => rfl
  | cons c a ih =>
    rw [List.cons_append, lineStartsFrom, lineStartsFrom, ih, byteLength_cons, Nat.add_assoc]
    split_ifs <;> rfl

theorem length_lineStartsFrom (offset : Nat) (text : List Char) :
    (lineStartsFrom offset text).length = text.count '\n' := by
  induction text generalizing offset with
  | nil => rfl
  | cons c text ih =>
    rw [lineStartsFrom]
    split_ifs with hc
    · rw [List.length_cons, ih, hc, List.count_cons_self]
    · rw [ih, List.count_cons_of_ne hc]

theorem lt_of_mem_lineStartsFrom {offset n : Nat} {text : List Char}
    (h : n ∈ lineStartsFrom offset text) : offset < n ∧ n ≤ offset + byteLength text := by
  induction text generalizing offset with
  | nil => cases h
  | cons c text ih =>
    have hc := c.utf8Size_pos
    rw [byteLength_cons]
    rw [lineStartsFrom] at h
    split_ifs at h
    · rcases List.mem_cons.1 h with rfl | h
      · omega
      · have := ih h
        omega
    · have := ih h
      omega

/-- No line starts within the first character. -/
theorem lt_of_mem_lineStartsFrom_of_head? {offset start n : Nat} {text : List Char}
    (hlt : ∀ c ∈ text.head?, offset < start + c.utf8Size) (h : n ∈ lineStartsFrom start text) :
    offset < n := by
  cases text with
  | nil => cases h
  | cons c text =>
    have hc := hlt c rfl
    rw [lineStartsFrom] at h
    split_ifs at h
    · rcases List.mem_cons.1 h with rfl | h
      · exact hc
      · exact Nat.lt_trans hc (lt_of_mem_lineStartsFrom h).1
    · exact Nat.lt_trans hc (lt_of_mem_lineStartsFrom h).1

theorem lineStarts_append (a b : List Char) :
    lineStarts (a ++ b) = lineStarts a ++ lineStartsFrom (byteLength a) b := by
  rw [lineStarts, lineStartsFrom_append, Nat.zero_add]
  rfl

theorem length_lineStarts (text : List Char) : (lineStarts text).length = text.count '\n' + 1 := by
  rw [lineStarts, List.length_cons, length_lineStartsFrom]

theorem le_of_mem_lineStarts {n : Nat} {text : List Char} (h : n ∈ lineStarts text) :
    n ≤ byteLength text := by
  rcases List.mem_cons.1 h with rfl | h
  · exact Nat.zero_le _
  · have := (lt_of_mem_lineStartsFrom h).2
    omega

/-- The last line starts behind the last line feed. -/
theorem getLast?_lineStarts {text line : List Char} (h : EndsLine text) (hl : '\n' ∉ line) :
    (lineStarts (text ++ line))[(text ++ line).count '\n']? = some (byteLength text) := by
  have hnone : lineStartsFrom (byteLength text) line = [] := by
    rw [← List.length_eq_zero_iff, length_lineStartsFrom, List.count_eq_zero]
    exact hl
  rw [lineStarts_append, hnone, List.append_nil, List.count_append, List.count_eq_zero.2 hl]
  rcases h with rfl | ⟨front, rfl⟩
  · rfl
  · have hlen := length_lineStarts front
    rw [lineStarts_append, Nat.add_zero, List.count_append, List.count_singleton_self,
      List.getElem?_append_right (by omega)]
    simp [hlen, lineStartsFrom, byteLength_append, byteLength_cons, byteLength_nil]

/-- The search ends where the entries begin to exceed the offset. -/
theorem countUpTo_eq {starts : Array Nat} {offset k : Nat}
    (hbelow : ∀ i < k, starts.getD i 0 ≤ offset)
    (habove : ∀ i, k ≤ i → i < starts.size → offset < starts.getD i 0) {lo hi : Nat}
    (hlo : lo ≤ k) (hhi : k ≤ hi) (hsize : hi ≤ starts.size) :
    countUpTo starts offset lo hi = k := by
  fun_induction countUpTo starts offset lo hi with
  | case1 lo hi h mid hle ih =>
    have hmid : mid < hi := by omega
    refine ih ?_ hhi hsize
    by_contra hk
    have := habove mid (by omega) (by omega)
    omega
  | case2 lo hi h mid hgt ih =>
    refine ih hlo ?_ (by omega)
    by_contra hk
    exact hgt (hbelow mid (by omega))
  | case3 lo hi h => omega

namespace SourceFile

variable (f : SourceFile) {a b : List Char}

/-- The search for an offset behind `a`, and not behind the character after that, ends in the line
that `a` ends in. -/
theorem countUpTo_starts (h : f.text = a ++ b) {offset : Nat} (hle : byteLength a ≤ offset)
    (hlt : ∀ c ∈ b.head?, offset < byteLength a + c.utf8Size) :
    countUpTo f.starts offset 0 f.lineCount = a.count '\n' + 1 := by
  have hstarts : f.starts = (lineStarts a ++ lineStartsFrom (byteLength a) b).toArray := by
    rw [f.starts_eq, h, lineStarts_append]
  have hlen := length_lineStarts a
  have hsize : f.starts.size =
      (lineStarts a).length + (lineStartsFrom (byteLength a) b).length := by
    rw [hstarts, List.size_toArray, List.length_append]
  refine countUpTo_eq (fun i hi => ?_) (fun i hi hsize' => ?_) (Nat.zero_le _) ?_ (Nat.le_refl _)
  · have hia : i < (lineStarts a).length := by omega
    have : f.starts.getD i 0 = (lineStarts a)[i] := by
      rw [hstarts, Array.getD_eq_getD_getElem?, List.getElem?_toArray,
        List.getElem?_append_left hia, List.getElem?_eq_getElem hia, Option.getD_some]
    rw [this]
    exact Nat.le_trans (le_of_mem_lineStarts (List.getElem_mem hia)) hle
  · have hib : i - (lineStarts a).length < (lineStartsFrom (byteLength a) b).length := by omega
    have : f.starts.getD i 0 =
        (lineStartsFrom (byteLength a) b)[i - (lineStarts a).length] := by
      rw [hstarts, Array.getD_eq_getD_getElem?, List.getElem?_toArray,
        List.getElem?_append_right (by omega), List.getElem?_eq_getElem hib, Option.getD_some]
    rw [this]
    exact lt_of_mem_lineStartsFrom_of_head? hlt (List.getElem_mem hib)
  · rw [lineCount, hsize]
    omega

/-- The table has the start of the line that a first part of the text ends in. -/
theorem getD_starts_count {before line : List Char} (h : f.text = before ++ line ++ b)
    (hb : EndsLine before) (hl : '\n' ∉ line) :
    f.starts.getD ((before ++ line).count '\n') 0 = byteLength before := by
  have hlt : (before ++ line).count '\n' < (lineStarts (before ++ line)).length := by
    rw [length_lineStarts]
    omega
  rw [f.starts_eq, h, lineStarts_append, Array.getD_eq_getD_getElem?, List.getElem?_toArray,
    List.getElem?_append_left hlt, getLast?_lineStarts hb hl, Option.getD_some]

/-- The line table finds the position that counting from the start of the file leads to. -/
theorem positionAt_byteLength (h : f.text = a ++ b) :
    f.positionAt (byteLength a) = Position.start.advanceOver a := by
  obtain ⟨before, line, rfl, hb, hl⟩ := exists_lastLine a
  have hmin : min (byteLength (before ++ line)) f.size = byteLength (before ++ line) := by
    rw [f.size_eq, h, byteLength_append _ b]
    omega
  have hline := f.countUpTo_starts h (Nat.le_refl _) fun c _ =>
    Nat.lt_add_of_pos_right c.utf8Size_pos
  have hslice : slice? f.text (byteLength before) (byteLength (before ++ line)) = some line :=
    slice?_eq_some_iff.2 ⟨before, b, h, rfl, (byteLength_append _ _).symm⟩
  rw [Position.advanceOver_start hb hl, positionAt]
  simp only [hmin, hline, Nat.add_sub_cancel, f.getD_starts_count h hb hl, hslice,
    Option.elim_some]

/-- A span that covers a middle part of the text yields that part. -/
theorem snippet_eq_ok {c : List Char} (h : f.text = a ++ b ++ c) {s : Span}
    (hlo : s.lo.offset = byteLength a) (hhi : s.hi.offset = byteLength (a ++ b)) :
    f.snippet s = .ok b := by
  have hsize := f.size_eq
  rw [h, byteLength_append] at hsize
  have hle := byteLength_append a b
  have hslice : slice? f.text (byteLength a) (byteLength (a ++ b)) = some b :=
    slice?_eq_some_iff.2 ⟨a, c, h, rfl, hle.symm⟩
  unfold snippet
  simp only [hlo, hhi, hslice]
  rw [if_neg (by omega), if_neg (by omega)]

/-- What a span yields stands between its offsets. -/
theorem slice?_of_snippet_eq_ok {s : Span} {part : List Char} (h : f.snippet s = .ok part) :
    slice? f.text s.lo.offset s.hi.offset = some part := by
  simp only [snippet] at h
  split_ifs at h
  cases hslice : slice? f.text s.lo.offset s.hi.offset with
  | none => simp [hslice] at h
  | some text => simpa [hslice] using h

/-- The span is that of `part`, which stands in the file behind `before`: its ends are where the
line table has them, and what it covers is the part. -/
structure SpanOf (before part : List Char) (s : Span) : Prop where
  text_eq : ∃ after, f.text = before ++ part ++ after
  file_eq : s.file = f.id
  lo_eq : s.lo = f.positionAt (byteLength before)
  hi_eq : s.hi = f.positionAt (byteLength (before ++ part))
  snippet_eq : f.snippet s = .ok part

theorem spanOf_advanceOver {c : List Char} (h : f.text = a ++ b ++ c) :
    f.SpanOf a b ⟨Position.start.advanceOver a, Position.start.advanceOver (a ++ b), f.id⟩ := by
  refine ⟨⟨c, h⟩, rfl, ?_, ?_, f.snippet_eq_ok h ?_ ?_⟩
  · rw [f.positionAt_byteLength (h.trans (List.append_assoc _ _ _))]
  · rw [f.positionAt_byteLength h]
  · exact Position.offset_advanceOver_start a
  · exact Position.offset_advanceOver_start (a ++ b)

end SourceFile

end Lexicon.Source
