import Lexicon.Unicode.Normalization
import Mathlib.Tactic.SplitIfs

/-!
# The ways to the normal form

The normal form of a text of inert characters is the text itself, so skipping the three steps there
does not change the result (`normalForm?_eq`, `normalize_eq_nfkc`).
-/

namespace Lexicon.Unicode

/-! ## Inert characters -/

/-- Whether the second characters of listed pairs are all listed as such. -/
def Composition.areTrailing (pairs : List (Nat × Nat)) : Bool :=
  pairs.all fun pair => (trailing.block? pair.1).isSome

theorem Composition.areTrailing_table : table.blocks.all (areTrailing ·.value) := by
  decide +kernel

theorem Composition.trailing_of_lookup {a b c : Nat}
    (h : (table.find? a).bind (·.lookup b) = some c) : (trailing.block? b).isSome := by
  obtain ⟨pairs, hpairs, hlookup⟩ := Option.bind_eq_some_iff.1 h
  have hvalue : areTrailing pairs := RangeTable.of_find? areTrailing_table hpairs
  obtain ⟨before, after, rfl, -⟩ := List.lookup_eq_some_iff.1 hlookup
  have hmem : (b, c) ∈ before ++ (b, c) :: after := by simp
  exact List.all_eq_true.1 hvalue (b, c) hmem

theorem Hangul.isTrailing_of_compose? {a b c : Nat} (h : compose? a b = some c) :
    isTrailing b := by
  unfold compose? at h
  unfold isTrailing
  split_ifs at h with hvowel htrail
  · simp [hvowel]
  · simp [htrail]

section Inert

variable {c : Char}

theorem decompose_of_isInert (h : isInert c) : decompose c = [c] := by
  simp only [isInert, Bool.and_eq_true, Option.isNone_iff_eq_none] at h
  rw [decompose, h.1.1.1]

theorem combiningClass_of_isInert (h : isInert c) : combiningClass c = 0 := by
  simp only [isInert, Bool.and_eq_true, beq_iff_eq] at h
  exact h.1.1.2

theorem compose?_of_isInert (h : isInert c) (a : Char) : compose? a c = none := by
  simp only [isInert, Bool.and_eq_true, Option.isNone_iff_eq_none, Bool.not_eq_true'] at h
  obtain ⟨⟨-, hlisted⟩, hhangul⟩ := h
  rw [compose?, Option.map_eq_none_iff, Composition.codePoint?]
  have hno : Hangul.compose? a.toNat c.toNat = none := by
    rw [← Option.not_isSome_iff_eq_none, Option.isSome_iff_exists]
    rintro ⟨composite, hc⟩
    rw [Hangul.isTrailing_of_compose? hc] at hhangul
    cases hhangul
  rw [hno, Option.orElse_eq_orElse, Option.orElse_eq_or, Option.none_or,
    ← Option.not_isSome_iff_eq_none, Option.isSome_iff_exists]
  rintro ⟨composite, hc⟩
  have := Composition.trailing_of_lookup hc
  rw [hlisted] at this
  cases this

end Inert

theorem isInert_of_isAscii {c : Char} (h : isAscii c) : isInert c := by
  have hall : ∀ n < 128, ((Decomposition.codePoints? n).isNone &&
      (CombiningClass.table.find? n).getD 0 == 0 && (Composition.trailing.block? n).isNone &&
        !Hangul.isTrailing n) = true := by
    decide +kernel
  rw [isAscii, decide_eq_true_eq] at h
  exact hall c.toNat h

/-! ## Inert texts -/

section Text

variable {text : List Char} (h : ∀ c ∈ text, isInert c)

include h

theorem flatMap_decompose_of_isInert : text.flatMap decompose = text := by
  induction text with
  | nil => rfl
  | cons c text ih =>
    rw [List.forall_mem_cons] at h
    rw [List.flatMap_cons, decompose_of_isInert h.1, ih h.2, List.singleton_append]

theorem canonicalOrder_of_isInert : canonicalOrder text = text := by
  unfold canonicalOrder
  induction text with
  | nil => rfl
  | cons c text ih =>
    rw [List.forall_mem_cons] at h
    rw [List.foldr_cons, ih h.2]
    cases text with
    | nil => rfl
    | cons d text =>
      rw [List.forall_mem_cons] at h
      rw [insertMark, if_neg (by simp [combiningClass_of_isInert h.2.1])]

theorem composeFrom_of_isInert (starter : Char) :
    composeFrom starter [] text = starter :: text := by
  induction text generalizing starter with
  | nil => rfl
  | cons c text ih =>
    rw [List.forall_mem_cons] at h
    rw [composeFrom, isBlocked, if_neg Bool.false_ne_true, compose?_of_isInert h.1]
    simp only [combiningClass_of_isInert h.1, if_true, List.reverse_nil, List.nil_append, ih h.2]

theorem nfkc_of_isInert : nfkc text = text := by
  rw [nfkc, flatMap_decompose_of_isInert h, canonicalOrder_of_isInert h]
  cases text with
  | nil => rfl
  | cons c text =>
    rw [List.forall_mem_cons] at h
    rw [composeAll, if_pos (combiningClass_of_isInert h.1), composeFrom_of_isInert h.2]

end Text

/-! ## All texts -/

/-- The normal form is told where it differs from the text, and nowhere else. -/
theorem normalForm?_eq (text : List Char) :
    normalForm? text = if nfkc text = text then none else some (nfkc text) := by
  by_cases hascii : text.all isAscii
  · have hnfkc : nfkc text = text :=
      nfkc_of_isInert fun c hc => isInert_of_isAscii (List.all_eq_true.1 hascii c hc)
    rw [normalForm?, if_pos hascii, if_pos hnfkc]
  · by_cases hinert : text.all isInert
    · have hnfkc : nfkc text = text := nfkc_of_isInert (List.all_eq_true.1 hinert)
      rw [normalForm?, if_neg hascii, if_pos hinert, if_pos hnfkc]
    · rw [normalForm?, if_neg hascii, if_neg hinert]

theorem normalize_eq_nfkc (text : List Char) : normalize text = nfkc text := by
  rw [normalize, normalForm?_eq]
  split_ifs with h
  · exact h.symm
  · rfl

theorem isSome_normalForm?_iff (text : List Char) :
    (normalForm? text).isSome ↔ nfkc text ≠ text := by
  rw [normalForm?_eq]
  split_ifs with h <;> simp [h]

end Lexicon.Unicode
