import Lexicon.Proofs.Unicode.Idempotence
import Lexicon.Proofs.Unicode.Normalization
import Lexicon.Symbol

/-!
# Equality of names

Whatever quick check stands in front of the three steps, as long as it accepts only texts that these
would not change, the same normal form is told (`tellsNormalForm`), and told once and for all: a
normal form has no other.  Names are interned in normal form, so two spellings get the same symbol
exactly when they have the same normal form (`same_symbol_iff_same_form`).
-/

namespace Lexicon

open Unicode

namespace Unicode

/-! ## Quick checks -/

/-- A test of texts that accepts only such as are their own normal form. -/
structure QuickCheck where
  accepts : List Char → Bool
  nfkc_eq_of_accepts : ∀ text, accepts text → nfkc text = text

/-- The normal form of a text where it differs from the text, which is found out without the three
steps where the text is ASCII or the check accepts it. -/
def QuickCheck.normalForm? (check : QuickCheck) (text : List Char) : Option (List Char) :=
  if text.all isAscii then none
  else if check.accepts text then none
  else
    let form := nfkc text
    if form = text then none else some form

/-- The check for inert characters. -/
def QuickCheck.inert : QuickCheck where
  accepts := fun text => text.all isInert
  nfkc_eq_of_accepts := fun _ h => nfkc_of_isInert (List.all_eq_true.1 h)

theorem QuickCheck.normalForm?_inert : inert.normalForm? = Unicode.normalForm? := rfl

theorem nfkc_of_isAscii {text : List Char} (h : text.all isAscii) : nfkc text = text :=
  nfkc_of_isInert fun c hc => isInert_of_isAscii (List.all_eq_true.1 h c hc)

theorem QuickCheck.normalForm?_eq (check : QuickCheck) (text : List Char) :
    check.normalForm? text = if nfkc text = text then none else some (nfkc text) := by
  by_cases hascii : text.all isAscii
  · rw [normalForm?, if_pos hascii, if_pos (nfkc_of_isAscii hascii)]
  · by_cases hquick : check.accepts text
    · have hnfkc : nfkc text = text := check.nfkc_eq_of_accepts text hquick
      rw [normalForm?, if_neg hascii, if_pos hquick, if_pos hnfkc]
    · rw [normalForm?, if_neg hascii, if_neg hquick]

/-- `form?` tells the normal form of every text, by itself where the text is that form. -/
structure TellsNormalForm (form? : List Char → Option (List Char)) : Prop where
  getD_eq : ∀ text, (form? text).getD text = nfkc text
  eq_none_iff : ∀ text, form? text = none ↔ text = nfkc text
  /-- The form that was told is its own normal form. -/
  idempotent : ∀ text, form? ((form? text).getD text) = none

theorem QuickCheck.tellsNormalForm (check : QuickCheck) : TellsNormalForm check.normalForm? := by
  have hform : ∀ text, (check.normalForm? text).getD text = nfkc text := by
    intro text
    rw [check.normalForm?_eq]
    split_ifs with h
    · exact h.symm
    · rfl
  have hnone : ∀ text, check.normalForm? text = none ↔ text = nfkc text := by
    intro text
    rw [check.normalForm?_eq]
    by_cases h : nfkc text = text
    · rw [if_pos h]
      exact iff_of_true rfl h.symm
    · rw [if_neg h]
      exact iff_of_false (Option.some_ne_none _) (Ne.symm h)
  refine ⟨hform, hnone, fun text => ?_⟩
  rw [hform, hnone, nfkc_nfkc]

end Unicode

/-! ## Symbols of names -/

namespace SymbolTable

variable {t t' : SymbolTable}

/-- Strings that were interned at two times have one symbol only if they are the same. -/
theorem Extends.fst_intern_eq_iff {r s : String} (h : t'.Extends (t.intern r).2) :
    (t'.intern s).1 = (t.intern r).1 ↔ s = r := by
  constructor
  · intro hsymbol
    have hr : (t'.intern s).2.textOf (t.intern r).1 = r :=
      textOf_intern_of_extends ((t'.extends_intern s).trans h)
    have hs : (t'.intern s).2.textOf (t'.intern s).1 = s :=
      textOf_intern_of_extends (extends_refl _)
    rw [← hs, hsymbol, hr]
  · rintro rfl
    exact h.fst_intern

theorem internNormalized_eq (t : SymbolTable) (s : String) :
    t.internNormalized s = t.intern (String.ofList (nfkc s.toList)) := by
  rw [internNormalized, normalize_eq_nfkc]

theorem Extends.fst_internNormalized_eq_iff {a b : String}
    (h : t'.Extends (t.internNormalized a).2) :
    (t'.internNormalized b).1 = (t.internNormalized a).1 ↔ nfkc a.toList = nfkc b.toList := by
  rw [internNormalized_eq] at h
  rw [internNormalized_eq, internNormalized_eq, h.fst_intern_eq_iff, String.ofList_inj]
  exact eq_comm

/-- The text of a name is interned as that name. -/
theorem Extends.fst_internNormalized_textOf {s : String}
    (h : t'.Extends (t.internNormalized s).2) :
    (t'.internNormalized (t'.textOf (t.internNormalized s).1)).1 = (t.internNormalized s).1 := by
  have htext : t'.textOf (t.internNormalized s).1 = String.ofList (nfkc s.toList) := by
    rw [internNormalized_eq] at h ⊢
    exact textOf_intern_of_extends h
  rw [h.fst_internNormalized_eq_iff, htext, String.toList_ofList, nfkc_nfkc]

end SymbolTable

/-- Every way to the normal form tells it, and it decides which spellings are the same name,
whenever they are interned. -/
theorem same_symbol_iff_same_form :
    (∀ check : QuickCheck, TellsNormalForm check.normalForm?) ∧
    TellsNormalForm normalForm? ∧
    (∀ text, normalize text = nfkc text ∧ (isNormalized text ↔ text = nfkc text)) ∧
    (∀ (t t' : SymbolTable) (a b : String), t'.Extends (t.internNormalized a).2 →
      ((t'.internNormalized b).1 = (t.internNormalized a).1 ↔ nfkc a.toList = nfkc b.toList)) ∧
    ∀ (t t' : SymbolTable) (s : String), t'.Extends (t.internNormalized s).2 →
      (t'.internNormalized (t'.textOf (t.internNormalized s).1)).1 = (t.internNormalized s).1 := by
  have hinert : TellsNormalForm normalForm? :=
    QuickCheck.normalForm?_inert ▸ QuickCheck.inert.tellsNormalForm
  refine ⟨QuickCheck.tellsNormalForm, hinert, fun text => ⟨normalize_eq_nfkc text, ?_⟩,
    fun t t' a b h => h.fst_internNormalized_eq_iff, fun t t' s h => h.fst_internNormalized_textOf⟩
  rw [isNormalized, Option.isNone_iff_eq_none, hinert.eq_none_iff]

/-- The micro sign and the letter mu are one name, which is not that of the letter m. -/
theorem same_symbol_of_micro :
    ∃ t : SymbolTable, t = (({} : SymbolTable).internNormalized "µ").2 ∧
      t.Extends (({} : SymbolTable).internNormalized "µ").2 ∧
      nfkc "µ".toList = nfkc "μ".toList ∧ nfkc "µ".toList ≠ nfkc "m".toList ∧
      (t.internNormalized "μ").1 = (({} : SymbolTable).internNormalized "µ").1 ∧
      (t.internNormalized "m").1 ≠ (({} : SymbolTable).internNormalized "µ").1 := by
  have hsame : nfkc "µ".toList = nfkc "μ".toList := by decide +kernel
  have hother : nfkc "µ".toList ≠ nfkc "m".toList := by decide +kernel
  obtain ⟨-, -, -, hiff, -⟩ := same_symbol_iff_same_form
  have hlater := SymbolTable.extends_refl (({} : SymbolTable).internNormalized "µ").2
  exact ⟨_, rfl, hlater, hsame, hother, (hiff _ _ _ _ hlater).2 hsame,
    fun h => hother ((hiff _ _ _ _ hlater).1 h)⟩

end Lexicon
