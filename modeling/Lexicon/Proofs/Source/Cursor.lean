import Lexicon.Proofs.Source.Position
import Lexicon.Source.Cursor

/-!
# Cursors in a text

A cursor that was moved over a text gives that text back (`Cursor.textFrom_moveOver`), and every
operation moves it over a part of the text (`Cursor.moves`).  So whatever is done with a cursor and
its copies, it stands behind a first part of its text (`Cursor.Session.standsIn_run`), and there it
tells what the file tells about the offset (`Cursor.StandsIn.agreesWith`).  Two such places are the
ends of a span that the file covers (`SourceFile.HasPosition.covers`).
-/

namespace Lexicon.Source

open Text

theorem length_le_byteLength (text : List Char) : text.length ≤ byteLength text := by
  induction text with
  | nil => exact Nat.le_refl _
  | cons c text ih =>
    have := c.utf8Size_pos
    rw [List.length_cons, byteLength_cons]
    omega

namespace Position

theorem line_advanceOver_start_le (text : List Char) :
    (start.advanceOver text).line ≤ text.length + 1 := by
  have hle : text.count '\n' ≤ text.length := List.count_le_length
  rw [line_advanceOver, Nat.add_comm]
  exact Nat.succ_le_succ hle

theorem column_advanceOver_start_le (text : List Char) :
    (start.advanceOver text).column ≤ text.length + 1 := by
  obtain ⟨before, line, rfl, hb, hl⟩ := exists_lastLine text
  rw [advanceOver_start hb hl, List.length_append]
  exact Nat.succ_le_succ (Nat.le_add_left _ _)

end Position

namespace SourceFile

/-- The position behind some first part of the text. -/
def HasPosition (f : SourceFile) (p : Position) : Prop :=
  ∃ before after, f.text = before ++ after ∧ p = Position.start.advanceOver before

/-- The span lies in the file: it leads from one position of the line table to another one, not
before it, and there is a text between them. -/
structure Covers (f : SourceFile) (s : Span) : Prop where
  file_eq : s.file = f.id
  lo_eq : s.lo = f.positionAt s.lo.offset
  hi_eq : s.hi = f.positionAt s.hi.offset
  le : s.lo.offset ≤ s.hi.offset
  snippet : ∃ text, f.snippet s = .ok text

variable {f : SourceFile} {p q : Position}

theorem hasPosition_start (f : SourceFile) : f.HasPosition .start := ⟨[], f.text, rfl, rfl⟩

theorem HasPosition.eq_positionAt (h : f.HasPosition p) : p = f.positionAt p.offset := by
  obtain ⟨before, after, htext, rfl⟩ := h
  rw [Position.offset_advanceOver_start, f.positionAt_byteLength htext]

/-- Of two first parts of a text the shorter one begins the longer one. -/
theorem HasPosition.exists_of_le (hp : f.HasPosition p) (hq : f.HasPosition q)
    (hle : p.offset ≤ q.offset) :
    ∃ before part after, f.text = before ++ part ++ after ∧
      p = Position.start.advanceOver before ∧ q = Position.start.advanceOver (before ++ part) := by
  obtain ⟨a, restA, htextA, rfl⟩ := hp
  obtain ⟨b, restB, htextB, rfl⟩ := hq
  rw [Position.offset_advanceOver_start, Position.offset_advanceOver_start] at hle
  rcases List.append_eq_append_iff.1 (htextA.symm.trans htextB) with
    ⟨part, rfl, -⟩ | ⟨part, rfl, -⟩
  · exact ⟨a, part, restB, htextB, rfl, rfl⟩
  · have hpart : part = [] := by
      by_contra hne
      have := byteLength_pos hne
      rw [byteLength_append] at hle
      omega
    subst hpart
    exact ⟨b, [], restB, by rw [htextB, List.append_nil], by rw [List.append_nil], by
      rw [List.append_nil]⟩

theorem HasPosition.covers (hp : f.HasPosition p) (hq : f.HasPosition q)
    (hle : p.offset ≤ q.offset) : f.Covers ⟨p, q, f.id⟩ := by
  obtain ⟨before, part, after, htext, hlo, hhi⟩ := hp.exists_of_le hq hle
  refine ⟨rfl, hp.eq_positionAt, hq.eq_positionAt, hle, part, f.snippet_eq_ok htext ?_ ?_⟩
  · rw [hlo, Position.offset_advanceOver_start]
  · rw [hhi, Position.offset_advanceOver_start]

end SourceFile

namespace Cursor

/-! ## Moving -/

theorem moveOver_moveOver (cur : Cursor) (a b rest rest' : List Char) :
    (cur.moveOver a rest).moveOver b rest' = cur.moveOver (a ++ b) rest' := by
  simp only [moveOver, List.reverseAux_eq, List.reverse_append, List.append_assoc,
    Position.advanceOver_append]

theorem pos_moveOver (cur : Cursor) (a rest : List Char) :
    (cur.moveOver a rest).pos = cur.pos.advanceOver a := rfl

theorem moveOver_nil (cur : Cursor) : cur.moveOver [] cur.rest = cur := rfl

theorem advance_eq_moveOver {cur : Cursor} {c : Char} {rest : List Char}
    (h : cur.rest = c :: rest) : cur.advance = cur.moveOver [c] rest := by
  unfold advance
  rw [h]
  rfl

/-- At the end of the text there is nothing to move over. -/
theorem advance_eq (cur : Cursor) :
    cur.advance = cur.moveOver (cur.rest.take 1) (cur.rest.drop 1) := by
  cases h : cur.rest with
  | nil =>
    rw [advance, h]
    exact (h ▸ cur.moveOver_nil).symm
  | cons c rest => exact advance_eq_moveOver h

theorem lastBytes?_append (run passed tail : List Char) :
    lastBytes? (byteLength run) (run.reverse ++ passed) tail = some (run ++ tail) := by
  induction run using List.reverseRecOn generalizing tail with
  | nil => cases passed <;> rfl
  | append_singleton run c ih =>
    have hc := c.utf8Size_pos
    have hlen : byteLength (run ++ [c]) = byteLength run + c.utf8Size := by
      rw [byteLength_append, byteLength_cons, byteLength_nil, Nat.add_zero]
    obtain ⟨n, hn⟩ : ∃ n, byteLength (run ++ [c]) = n + 1 :=
      ⟨byteLength (run ++ [c]) - 1, by omega⟩
    rw [hn, List.reverse_append, List.reverse_singleton, List.singleton_append, List.cons_append,
      lastBytes?, if_pos (by omega), show n + 1 - c.utf8Size = byteLength run by omega, ih,
      List.append_assoc, List.singleton_append]

/-- The cursor gives back the text that it was moved over. -/
theorem textFrom_moveOver (cur : Cursor) (run rest : List Char) :
    (cur.moveOver run rest).textFrom cur.pos.offset = run := by
  have hpos : (cur.moveOver run rest).pos.offset = cur.pos.offset + byteLength run :=
    Position.offset_advanceOver _ _
  have hpassed : (cur.moveOver run rest).passed = run.reverse ++ cur.passed :=
    List.reverseAux_eq
  rw [textFrom, if_pos (by omega), hpos, hpassed, Nat.add_sub_cancel_left, lastBytes?_append,
    List.append_nil, Option.getD_some]

/-! ## Standing in a text -/

/-- The cursor stands in `text` behind its first part `before`. -/
structure StandsBehind (text before : List Char) (cur : Cursor) : Prop where
  text_eq : text = before ++ cur.rest
  passed_eq : cur.passed = before.reverse
  pos_eq : cur.pos = Position.start.advanceOver before

/-- The cursor stands somewhere in `text`. -/
def StandsIn (text : List Char) (cur : Cursor) : Prop := ∃ before, cur.StandsBehind text before

/-- What the cursor tells about its place is what the file has there: the position is that of the
line table, the characters are those behind the offset, and the end is the end of the text.  The
counters are bounded by the size of the file. -/
structure AgreesWith (file : SourceFile) (cur : Cursor) : Prop where
  pos_eq : cur.pos = file.positionAt cur.pos.offset
  offset_le : cur.pos.offset ≤ file.size
  rest_eq : ∃ rest, dropBytes? cur.pos.offset file.text = some rest ∧
    cur.current? = rest.head? ∧ ∀ n, cur.peek? n = rest[n]?
  current_eq_none_iff : cur.current? = none ↔ cur.pos.offset = file.size
  isAtEnd_iff : cur.isAtEnd ↔ cur.pos.offset = file.size
  line_le : cur.pos.line ≤ file.size + 1
  column_le : cur.pos.column ≤ file.size + 1

theorem standsIn_ofText (text : List Char) : (ofText text).StandsIn text := ⟨[], rfl, rfl, rfl⟩

section StandsIn

variable {text : List Char} {cur : Cursor} {file : SourceFile}

theorem StandsBehind.moveOver {before : List Char} (h : cur.StandsBehind text before)
    {taken rest : List Char} (hr : cur.rest = taken ++ rest) :
    (cur.moveOver taken rest).StandsBehind text (before ++ taken) := by
  refine ⟨?_, ?_, ?_⟩
  · rw [rest_moveOver, List.append_assoc, ← hr]
    exact h.text_eq
  · rw [List.reverse_append, ← h.passed_eq]
    exact List.reverseAux_eq
  · rw [pos_moveOver, h.pos_eq, Position.advanceOver_append]

theorem StandsIn.moveOver (h : cur.StandsIn text) {taken rest : List Char}
    (hr : cur.rest = taken ++ rest) : (cur.moveOver taken rest).StandsIn text := by
  obtain ⟨before, hbehind⟩ := h
  exact ⟨before ++ taken, hbehind.moveOver hr⟩

theorem StandsIn.advance (h : cur.StandsIn text) : cur.advance.StandsIn text := by
  rw [advance_eq]
  exact h.moveOver (List.take_append_drop 1 _).symm

theorem StandsIn.eat (h : cur.StandsIn text) (c : Char) : (cur.eat c).2.StandsIn text := by
  unfold Cursor.eat
  split_ifs
  · exact h.advance
  · exact h

/-- Of two cursors in a text the one with less text behind it stands at the larger offset. -/
theorem StandsIn.offset_lt {cur' : Cursor} (h : cur.StandsIn text) (h' : cur'.StandsIn text)
    (hlt : cur'.rest.length < cur.rest.length) : cur.pos.offset < cur'.pos.offset := by
  obtain ⟨a, htext, -, hpos⟩ := h
  obtain ⟨b, htext', -, hpos'⟩ := h'
  rw [hpos, hpos', Position.offset_advanceOver_start, Position.offset_advanceOver_start]
  rcases List.append_eq_append_iff.1 (htext.symm.trans htext') with
    ⟨part, rfl, hrest⟩ | ⟨part, -, hrest⟩
  · have hpart : part ≠ [] := by
      rintro rfl
      rw [hrest, List.nil_append] at hlt
      exact Nat.lt_irrefl _ hlt
    have := byteLength_pos hpart
    rw [byteLength_append]
    omega
  · rw [hrest, List.length_append] at hlt
    omega

theorem StandsIn.hasPosition (h : cur.StandsIn file.text) : file.HasPosition cur.pos := by
  obtain ⟨before, htext, -, hpos⟩ := h
  exact ⟨before, cur.rest, htext, hpos⟩

/-- Counting along the way leads to what the line table finds. -/
theorem StandsIn.agreesWith (h : cur.StandsIn file.text) : cur.AgreesWith file := by
  obtain ⟨before, htext, -, hpos⟩ := id h
  have hoffset : cur.pos.offset = byteLength before := by
    rw [hpos, Position.offset_advanceOver_start]
  have hsize : file.size = byteLength before + byteLength cur.rest := by
    rw [file.size_eq, htext, byteLength_append]
  have hlength := length_le_byteLength before
  have hend : cur.rest = [] ↔ cur.pos.offset = file.size := by
    constructor
    · intro hr
      rw [hoffset, hsize, hr, byteLength_nil, Nat.add_zero]
    · intro ho
      by_contra hr
      have := byteLength_pos hr
      omega
  constructor
  · exact h.hasPosition.eq_positionAt
  · omega
  · refine ⟨cur.rest, ?_, rfl, fun n => rfl⟩
    rw [hoffset, htext, dropBytes?_append]
  · rw [← hend, current?, List.head?_eq_none_iff]
  · rw [← hend, isAtEnd, List.isEmpty_iff]
  · have := Position.line_advanceOver_start_le before
    rw [hpos]
    omega
  · have := Position.column_advanceOver_start_le before
    rw [hpos]
    omega

end StandsIn

/-! ## Sessions -/

/-- Moves on, character by character, as long as `p` holds of the characters that were moved over,
last one first, and the current one.  So `p` may answer differently each time it is asked. -/
def eatWhileSeen (p : List Char → Char → Bool) (seen : List Char) (cur : Cursor) : Cursor :=
  match h : cur.rest with
  | [] => cur
  | c :: _ =>
    if p seen c then
      have : cur.advance.rest.length < cur.rest.length := by simp [rest_advance, h]
      cur.advance.eatWhileSeen p (c :: seen)
    else cur
termination_by cur.rest.length

/-- Where `p` always answers the same, all characters up to the first other one are moved over at
once. -/
theorem eatWhileSeen_eq_eatWhile (p : Char → Bool) (seen : List Char) (cur : Cursor) :
    cur.eatWhileSeen (fun _ => p) seen = cur.eatWhile p := by
  fun_induction eatWhileSeen (fun _ => p) seen cur with
  | case1 seen cur h =>
    have hnil := cur.moveOver_nil
    rw [h] at hnil
    rw [eatWhile, h]
    exact hnil.symm
  | case2 seen cur c rest h hc this ih =>
    rw [ih, eatWhile, eatWhile, advance_eq_moveOver h, rest_moveOver, moveOver_moveOver, h,
      List.takeWhile_cons_of_pos hc, List.dropWhile_cons_of_pos hc]
    rfl
  | case3 seen cur c rest h hc =>
    rw [eatWhile, h, List.takeWhile_cons_of_neg hc, List.dropWhile_cons_of_neg hc, ← h,
      moveOver_nil]

/-- The characters that are moved over are accepted one after the other, up to the first that is
not. -/
theorem exists_eatWhileSeen_eq (p : List Char → Char → Bool) (seen : List Char) (cur : Cursor) :
    ∃ taken rest, cur.rest = taken ++ rest ∧ cur.eatWhileSeen p seen = cur.moveOver taken rest ∧
      (∀ front c back, taken = front ++ c :: back → p (front.reverse ++ seen) c) ∧
      ∀ c ∈ rest.head?, p (taken.reverse ++ seen) c = false := by
  fun_induction eatWhileSeen p seen cur with
  | case1 seen cur h => exact ⟨[], cur.rest, rfl, cur.moveOver_nil.symm, by simp, by simp [h]⟩
  | case2 seen cur c rest h hc this ih =>
    obtain ⟨taken, more, htext, hmove, haccepted, hrefused⟩ := ih
    have hadvance := advance_eq_moveOver h
    rw [hadvance, rest_moveOver] at htext
    have hmove' : cur.advance.moveOver taken more = cur.moveOver (c :: taken) more := by
      rw [hadvance, moveOver_moveOver, List.singleton_append]
    refine ⟨c :: taken, more, by rw [h, htext, List.cons_append], hmove.trans hmove', ?_, ?_⟩
    · intro front d back hsplit
      cases front with
      | nil =>
        obtain ⟨rfl, -⟩ := List.cons_eq_cons.1 hsplit
        exact hc
      | cons e front =>
        obtain ⟨rfl, hfront⟩ := List.cons_eq_cons.1 hsplit
        simpa using haccepted front d back hfront
    · simpa using hrefused
  | case3 seen cur c rest h hc =>
    exact ⟨[], cur.rest, rfl, cur.moveOver_nil.symm, by simp, by simpa [h] using hc⟩

theorem StandsIn.eatWhileSeen {text : List Char} {cur : Cursor} (h : cur.StandsIn text)
    (p : List Char → Char → Bool) (seen : List Char) :
    (cur.eatWhileSeen p seen).StandsIn text := by
  obtain ⟨taken, rest, hrest, hmove, -, -⟩ := exists_eatWhileSeen_eq p seen cur
  rw [hmove]
  exact h.moveOver hrest

/-- What the operations move over: one character, if there is one; one that was asked for; or all
that are accepted, up to the first that is not. -/
structure Moves (cur : Cursor) : Prop where
  advance : cur.advance = cur.moveOver (cur.rest.take 1) (cur.rest.drop 1)
  eat : ∀ c, cur.eat c =
    if cur.current? = some c then (true, cur.moveOver [c] (cur.rest.drop 1)) else (false, cur)
  eatWhile : ∀ p, ∃ taken rest, cur.rest = taken ++ rest ∧
    cur.eatWhileSeen p [] = cur.moveOver taken rest ∧
    (∀ front c back, taken = front ++ c :: back → p front.reverse c) ∧
    ∀ c ∈ rest.head?, p taken.reverse c = false

theorem moves (cur : Cursor) : cur.Moves where
  advance := cur.advance_eq
  eat c := by
    rw [Cursor.eat]
    split_ifs with hc
    · obtain ⟨rest, hrest⟩ := List.head?_eq_some_iff.1 hc
      rw [advance_eq_moveOver hrest, hrest, List.drop_one, List.tail_cons]
    · rfl
  eatWhile p := by simpa using exists_eatWhileSeen_eq p [] cur

/-- What can be done with a cursor. -/
inductive Call where
  | advance
  | eat (c : Char)
  | eatWhile (p : List Char → Char → Bool)
  | peek (n : Nat)
  /-- Makes a copy of the cursor. -/
  | save
  /-- Goes back to the copy that was made as the `n`-th. -/
  | restore (n : Nat)

/-- A cursor with the copies that were made of it, first one first. -/
structure Session where
  cursor : Cursor
  saved : List Cursor

namespace Session

def perform (s : Session) : Call → Session
  | .advance => { s with cursor := s.cursor.advance }
  | .eat c => { s with cursor := (s.cursor.eat c).2 }
  | .eatWhile p => { s with cursor := s.cursor.eatWhileSeen p [] }
  | .peek _ => s
  | .save => { s with saved := s.saved ++ [s.cursor] }
  | .restore n => { s with cursor := (s.saved[n]?).getD s.cursor }

/-- The session that begins at the start of `text`. -/
def run (text : List Char) (calls : List Call) : Session :=
  calls.foldl perform ⟨ofText text, []⟩

/-- All cursors of the session stand in `text`. -/
structure StandsIn (text : List Char) (s : Session) : Prop where
  cursor : s.cursor.StandsIn text
  saved : ∀ cur ∈ s.saved, cur.StandsIn text

theorem StandsIn.perform {text : List Char} {s : Session} (h : s.StandsIn text) (call : Call) :
    (s.perform call).StandsIn text := by
  cases call with
  | advance => exact ⟨h.cursor.advance, h.saved⟩
  | eat c => exact ⟨h.cursor.eat c, h.saved⟩
  | eatWhile p => exact ⟨h.cursor.eatWhileSeen p [], h.saved⟩
  | peek n => exact h
  | save =>
    refine ⟨h.cursor, fun cur hcur => ?_⟩
    rcases List.mem_append.1 hcur with hcur | hcur
    · exact h.saved cur hcur
    · rw [List.mem_singleton.1 hcur]
      exact h.cursor
  | restore n =>
    refine ⟨?_, h.saved⟩
    change ((s.saved[n]?).getD s.cursor).StandsIn text
    cases hn : s.saved[n]? with
    | none => exact h.cursor
    | some cur => exact h.saved cur (List.mem_of_getElem? hn)

theorem standsIn_run (text : List Char) (calls : List Call) : (run text calls).StandsIn text := by
  induction calls using List.reverseRecOn with
  | nil => exact ⟨standsIn_ofText text, nofun⟩
  | append_singleton calls call ih =>
    rw [run, List.foldl_append]
    exact ih.perform call

end Session

end Cursor

end Lexicon.Source
