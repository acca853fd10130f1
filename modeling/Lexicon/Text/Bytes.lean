/-!
# Byte offsets into a text

A text is a list of characters, but offsets into it count the bytes of its UTF-8 encoding.  Cutting
a text at an offset succeeds when the offset is the end of a character, or the start or the end of
the text.
-/

namespace Lexicon.Text

/-- The number of bytes of a text. -/
def byteLength : List Char → Nat
  | [] => 0
  | c :: text => c.utf8Size + byteLength text

theorem byteLength_nil : byteLength [] = 0 := rfl

theorem byteLength_cons (c : Char) (text : List Char) :
    byteLength (c :: text) = c.utf8Size + byteLength text := rfl

theorem byteLength_append (a b : List Char) :
    byteLength (a ++ b) = byteLength a + byteLength b := by
  induction a with
  | nil => rw [List.nil_append, byteLength_nil, Nat.zero_add]
  | cons c a ih => rw [List.cons_append, byteLength_cons, byteLength_cons, ih, Nat.add_assoc]

theorem byteLength_pos {text : List Char} (h : text ≠ []) : 0 < byteLength text := by
  obtain ⟨c, rest, rfl⟩ := List.exists_cons_of_ne_nil h
  have := c.utf8Size_pos
  rw [byteLength_cons]
  omega

/-- The text from byte offset `n` on. -/
def dropBytes? : Nat → List Char → Option (List Char)
  | 0, text => some text
  | _ + 1, [] => none
  | n + 1, c :: text => if c.utf8Size ≤ n + 1 then dropBytes? (n + 1 - c.utf8Size) text else none

/-- The text up to byte offset `n`. -/
def takeBytes? : Nat → List Char → Option (List Char)
  | 0, _ => some []
  | _ + 1, [] => none
  | n + 1, c :: text =>
    if c.utf8Size ≤ n + 1 then (takeBytes? (n + 1 - c.utf8Size) text).map (c :: ·) else none

/-- The text from byte offset `start` to `stop`. -/
def slice? (text : List Char) (start stop : Nat) : Option (List Char) :=
  if start ≤ stop then (dropBytes? start text).bind (takeBytes? (stop - start)) else none

theorem dropBytes?_append (first rest : List Char) :
    dropBytes? (byteLength first) (first ++ rest) = some rest := by
  induction first with
  | nil => cases rest <;> rfl
  | cons c first ih =>
    have hc := c.utf8Size_pos
    obtain ⟨n, hn⟩ : ∃ n, byteLength (c :: first) = n + 1 :=
      ⟨byteLength (c :: first) - 1, by rw [byteLength_cons]; omega⟩
    have hl := byteLength_cons c first
    rw [hn, List.cons_append, dropBytes?, if_pos (by omega),
      show n + 1 - c.utf8Size = byteLength first by omega, ih]

theorem takeBytes?_append (first rest : List Char) :
    takeBytes? (byteLength first) (first ++ rest) = some first := by
  induction first with
  | nil => cases rest <;> rfl
  | cons c first ih =>
    have hc := c.utf8Size_pos
    obtain ⟨n, hn⟩ : ∃ n, byteLength (c :: first) = n + 1 :=
      ⟨byteLength (c :: first) - 1, by rw [byteLength_cons]; omega⟩
    have hl := byteLength_cons c first
    rw [hn, List.cons_append, takeBytes?, if_pos (by omega),
      show n + 1 - c.utf8Size = byteLength first by omega, ih, Option.map_some]

/-- A text has one first part of each length. -/
theorem append_inj_of_byteLength {a b c d : List Char} (h : a ++ b = c ++ d)
    (hl : byteLength a = byteLength c) : a = c ∧ b = d := by
  have htake := takeBytes?_append a b
  have hdrop := dropBytes?_append a b
  rw [h, hl, takeBytes?_append] at htake
  rw [h, hl, dropBytes?_append] at hdrop
  exact ⟨(Option.some.inj htake).symm, (Option.some.inj hdrop).symm⟩

/-- An offset that can be cut at leaves what follows some first part of that length. -/
theorem exists_of_dropBytes? {n : Nat} {text rest : List Char} (h : dropBytes? n text = some rest) :
    ∃ first, text = first ++ rest ∧ byteLength first = n := by
  fun_induction dropBytes? n text with
  | case1 text => cases h; exact ⟨[], rfl, rfl⟩
  | case2 => cases h
  | case3 n c text hc ih =>
    obtain ⟨first, rfl, hl⟩ := ih h
    exact ⟨c :: first, rfl, by rw [byteLength_cons]; omega⟩
  | case4 => cases h

theorem exists_of_takeBytes? {n : Nat} {text first : List Char}
    (h : takeBytes? n text = some first) :
    ∃ rest, text = first ++ rest ∧ byteLength first = n := by
  fun_induction takeBytes? n text generalizing first with
  | case1 text => cases h; exact ⟨text, rfl, rfl⟩
  | case2 => cases h
  | case3 n c text hc ih =>
    obtain ⟨f, hf, rfl⟩ := Option.map_eq_some_iff.1 h
    obtain ⟨rest, rfl, hl⟩ := ih hf
    exact ⟨rest, rfl, by rw [byteLength_cons]; omega⟩
  | case4 => cases h

/-- A slice is a middle part of the text, and every middle part is the slice between its ends. -/
theorem slice?_eq_some_iff {text part : List Char} {start stop : Nat} :
    slice? text start stop = some part ↔
      ∃ before after, text = before ++ part ++ after ∧ byteLength before = start ∧
        start + byteLength part = stop := by
  constructor
  · intro h
    rw [slice?] at h
    split at h
    next hle =>
      obtain ⟨rest, hd, ht⟩ := Option.bind_eq_some_iff.1 h
      obtain ⟨before, rfl, hb⟩ := exists_of_dropBytes? hd
      obtain ⟨after, rfl, hp⟩ := exists_of_takeBytes? ht
      exact ⟨before, after, by rw [List.append_assoc], hb, by omega⟩
    next => cases h
  · rintro ⟨before, after, rfl, rfl, rfl⟩
    rw [slice?, if_pos (by omega), List.append_assoc, dropBytes?_append, Option.bind_some,
      Nat.add_sub_cancel_left, takeBytes?_append]

end Lexicon.Text
