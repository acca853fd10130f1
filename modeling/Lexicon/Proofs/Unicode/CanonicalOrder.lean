import Lexicon.Unicode.Normalization
import Mathlib.Data.List.Chain

/-!
# Canonical order

Putting marks in canonical order permutes a text (`perm_canonicalOrder`), ends with a text in order
(`isOrdered_canonicalOrder`), and leaves a text in order as it is (`canonicalOrder_of_isOrdered`).
A mark may move in front of marks of lower classes without a change of the result
(`canonicalOrder_move`).
-/

namespace Lexicon.Unicode

/-- `d` is a mark of a lower class than `c`, in front of which `c` cannot stand. -/
def Precedes (d c : Char) : Prop := 0 < combiningClass d ∧ combiningClass d < combiningClass c

instance (d c : Char) : Decidable (Precedes d c) := inferInstanceAs (Decidable (_ ∧ _))

/-- No mark stands directly behind one of a higher class. -/
def IsOrdered (text : List Char) : Prop := text.IsChain fun c d => ¬ Precedes d c

theorem IsOrdered.tail {c : Char} {text : List Char} (h : IsOrdered (c :: text)) :
    IsOrdered text := List.IsChain.tail h

theorem isOrdered_cons_iff {c : Char} {text : List Char} :
    IsOrdered (c :: text) ↔ (∀ d ∈ text.head?, ¬ Precedes d c) ∧ IsOrdered text := by
  cases text with
  | nil => simp [IsOrdered]
  | cons d text => simp [IsOrdered]

/-! ## Inserting a mark -/

theorem insertMark_cons_of_precedes {c d : Char} (h : Precedes d c) (text : List Char) :
    insertMark c (d :: text) = d :: insertMark c text := if_pos h

theorem insertMark_cons_of_not_precedes {c d : Char} (h : ¬ Precedes d c) (text : List Char) :
    insertMark c (d :: text) = c :: d :: text := if_neg h

/-- A character that nothing behind it precedes stays in front. -/
theorem insertMark_of_head {c : Char} {text : List Char} (h : ∀ d ∈ text.head?, ¬ Precedes d c) :
    insertMark c text = c :: text := by
  cases text with
  | nil => rfl
  | cons d text => exact insertMark_cons_of_not_precedes (h d rfl) text

theorem insertMark_of_starter {c : Char} (h : combiningClass c = 0) (text : List Char) :
    insertMark c text = c :: text :=
  insertMark_of_head fun _ _ hd => Nat.not_lt_zero _ (h ▸ hd.2)

theorem perm_insertMark (c : Char) (text : List Char) : (insertMark c text).Perm (c :: text) := by
  induction text with
  | nil => exact .refl _
  | cons d text ih =>
    by_cases h : Precedes d c
    · rw [insertMark_cons_of_precedes h]
      exact (ih.cons d).trans (.swap c d text)
    · rw [insertMark_cons_of_not_precedes h]

theorem mem_head?_insertMark {c d : Char} {text : List Char}
    (h : d ∈ (insertMark c text).head?) : d = c ∨ d ∈ text.head? := by
  cases text with
  | nil => exact .inl (Option.some.inj h).symm
  | cons e text =>
    by_cases he : Precedes e c
    · rw [insertMark_cons_of_precedes he] at h
      exact .inr h
    · rw [insertMark_cons_of_not_precedes he] at h
      exact .inl (Option.some.inj h).symm

theorem IsOrdered.insertMark {text : List Char} (h : IsOrdered text) (c : Char) :
    IsOrdered (insertMark c text) := by
  induction text with
  | nil => exact List.isChain_singleton c
  | cons d text ih =>
    by_cases hd : Precedes d c
    · rw [insertMark_cons_of_precedes hd, isOrdered_cons_iff]
      refine ⟨fun e he => ?_, ih h.tail⟩
      rcases mem_head?_insertMark he with rfl | he
      · exact fun hc => Nat.lt_asymm hd.2 hc.2
      · exact (isOrdered_cons_iff.1 h).1 e he
    · rw [insertMark_cons_of_not_precedes hd, isOrdered_cons_iff]
      refine ⟨fun e he => ?_, h⟩
      obtain rfl := Option.some.inj he
      exact hd

/-- Of two marks of different classes it does not matter which is inserted first. -/
theorem insertMark_comm {c d : Char} (h : Precedes c d) (text : List Char) :
    insertMark d (insertMark c text) = insertMark c (insertMark d text) := by
  have hdc : ¬ Precedes d c := fun hd => Nat.lt_asymm h.2 hd.2
  induction text with
  | nil => exact (if_pos h).trans (if_neg hdc).symm
  | cons e text ih =>
    by_cases hec : Precedes e c
    · have hed : Precedes e d := ⟨hec.1, Nat.lt_trans hec.2 h.2⟩
      rw [insertMark_cons_of_precedes hec, insertMark_cons_of_precedes hed,
        insertMark_cons_of_precedes hed, insertMark_cons_of_precedes hec, ih]
    · rw [insertMark_cons_of_not_precedes hec, insertMark_cons_of_precedes h]
      by_cases hed : Precedes e d
      · rw [insertMark_cons_of_precedes hed, insertMark_cons_of_not_precedes hec]
      · rw [insertMark_cons_of_not_precedes hed, insertMark_cons_of_not_precedes hdc]

/-! ## Whole texts -/

theorem canonicalOrder_cons (c : Char) (text : List Char) :
    canonicalOrder (c :: text) = insertMark c (canonicalOrder text) := rfl

theorem canonicalOrder_append_congr {b b' : List Char} (h : canonicalOrder b = canonicalOrder b')
    (a : List Char) : canonicalOrder (a ++ b) = canonicalOrder (a ++ b') := by
  simp only [canonicalOrder, List.foldr_append] at h ⊢
  rw [h]

theorem perm_canonicalOrder (text : List Char) : (canonicalOrder text).Perm text := by
  induction text with
  | nil => exact .refl _
  | cons c text ih => exact (perm_insertMark c _).trans (ih.cons c)

theorem isOrdered_canonicalOrder (text : List Char) : IsOrdered (canonicalOrder text) := by
  induction text with
  | nil => exact List.isChain_nil
  | cons c text ih => exact ih.insertMark c

theorem canonicalOrder_of_isOrdered {text : List Char} (h : IsOrdered text) :
    canonicalOrder text = text := by
  induction text with
  | nil => rfl
  | cons c text ih =>
    rw [canonicalOrder_cons, ih h.tail, insertMark_of_head (isOrdered_cons_iff.1 h).1]

/-- A mark may move in front of marks of lower classes. -/
theorem canonicalOrder_move {held : List Char} {c : Char} (h : ∀ m ∈ held, Precedes m c)
    (text : List Char) :
    canonicalOrder (held ++ c :: text) = canonicalOrder (c :: (held ++ text)) := by
  induction held with
  | nil => rfl
  | cons m held ih =>
    rw [List.forall_mem_cons] at h
    calc canonicalOrder (m :: held ++ c :: text)
        = insertMark m (canonicalOrder (held ++ c :: text)) := rfl
      _ = insertMark m (insertMark c (canonicalOrder (held ++ text))) := by
          rw [ih h.2, canonicalOrder_cons]
      _ = insertMark c (insertMark m (canonicalOrder (held ++ text))) :=
          (insertMark_comm h.1 _).symm

end Lexicon.Unicode
