import Lexicon.Lexer.Numeral
import Lexicon.Proofs.Text.Decimal
import Mathlib.Data.List.Induction
import Mathlib.Tactic.SplitIfs

/-!
# The grammar of integer literals

Literals are runs of digits with single underscores between them (`IsLiteral`).  Splitting a text
that begins with a digit yields a literal (`isLiteral_split`) that does not go on in the rest
(`stops_split`), and any literal that does not go on in the rest is the one that is split off
(`split_append_of_stops`).  The value of a literal is that of its digits, if a word holds it
(`value?_eq`).  The decimal text of a word is a literal with that value (`value?_toString`), and no
other literals are such texts than the plain ones (`toString_value_eq_iff`).
-/

namespace Lexicon.Numeral

open Text

/-- One or more digits, and any number of times an underscore with one or more digits. -/
inductive IsLiteral : List Char → Prop
  | digit {c : Char} (hc : c.isDigit) : IsLiteral [c]
  | cons {c : Char} {rest : List Char} (hc : c.isDigit) (h : IsLiteral rest) :
    IsLiteral (c :: rest)
  | separate {c : Char} {rest : List Char} (hc : c.isDigit) (h : IsLiteral rest) :
    IsLiteral (c :: '_' :: rest)

/-- A literal in front of `rest` ends there. -/
def Stops (rest : List Char) : Prop := ∀ c r, rest = c :: r → continues c r.head? = false

theorem stops_nil : Stops [] := by
  intro c r h
  cases h

theorem IsLiteral.exists_cons {literal : List Char} (h : IsLiteral literal) :
    ∃ c rest, literal = c :: rest ∧ c.isDigit := by
  cases h with
  | digit hc => exact ⟨_, _, rfl, hc⟩
  | cons hc h => exact ⟨_, _, rfl, hc⟩
  | separate hc h => exact ⟨_, _, rfl, hc⟩

theorem IsLiteral.newline_notMem {literal : List Char} (h : IsLiteral literal) :
    '\n' ∉ literal := by
  have hne {c : Char} (hc : c.isDigit) : '\n' ≠ c := by
    rintro rfl
    exact absurd hc (by decide)
  induction h with
  | digit hc => simp [hne hc]
  | cons hc h ih => simp [hne hc, ih]
  | separate hc h ih => simp [hne hc, ih]

theorem splitFrom_eq (taken text : List Char) :
    splitFrom taken text = (taken.reverse ++ (split text).1, (split text).2) := by
  unfold split
  induction text generalizing taken with
  | nil => simp [splitFrom]
  | cons c text ih =>
    rw [splitFrom, splitFrom]
    split_ifs with hc
    · rw [ih (c :: taken), ih [c]]
      simp
    · simp

theorem split_cons_of_continues {c : Char} {text : List Char} (h : continues c text.head?) :
    split (c :: text) = (c :: (split text).1, (split text).2) := by
  rw [split, splitFrom, if_pos h, splitFrom_eq, List.reverse_singleton, List.singleton_append]

theorem split_of_stops {text : List Char} (h : Stops text) : split text = ([], text) := by
  cases text with
  | nil => rfl
  | cons c text =>
    rw [split, splitFrom, if_neg (by simp [h c text rfl]), List.reverse_nil]

theorem continues_of_isDigit {c : Char} (h : c.isDigit) (next : Option Char) :
    continues c next := by
  simp [continues, h]

theorem isLiteral_split {c : Char} {text : List Char} (hc : c.isDigit) :
    IsLiteral (split (c :: text)).1 := by
  -- Behind an underscore the literal goes on two characters further, so the induction is strong.
  induction hn : text.length using Nat.strongRecOn generalizing c text with
  | _ n ih =>
    rw [split_cons_of_continues (continues_of_isDigit hc _)]
    cases text with
    | nil => exact .digit hc
    | cons d rest =>
      rw [List.length_cons] at hn
      by_cases hd : d.isDigit
      · exact .cons hc (ih rest.length (by omega) hd rfl)
      · by_cases hcont : continues d rest.head?
        · simp only [continues, hd, Bool.false_or, Bool.and_eq_true, beq_iff_eq] at hcont
          obtain ⟨rfl, hnext⟩ := hcont
          cases rest with
          | nil => cases hnext
          | cons e rest =>
            have he : e.isDigit := hnext
            rw [List.length_cons] at hn
            rw [split_cons_of_continues (by simp [continues, he])]
            exact .separate hc (ih rest.length (by omega) he rfl)
        · have hs : Stops (d :: rest) := by
            rintro _ _ ⟨⟩
            simpa using hcont
          rw [split_of_stops hs]
          exact .digit hc

theorem stops_split (text : List Char) : Stops (split text).2 := by
  induction text with
  | nil => exact stops_nil
  | cons c text ih =>
    by_cases hc : continues c text.head?
    · rw [split_cons_of_continues hc]
      exact ih
    · have hs : Stops (c :: text) := by
        rintro _ _ ⟨⟩
        simpa using hc
      rwa [split_of_stops hs]

/-- A literal in front of a text goes on with what the text goes on with. -/
theorem split_literal_append {literal : List Char} (h : IsLiteral literal) (rest : List Char) :
    split (literal ++ rest) = (literal ++ (split rest).1, (split rest).2) := by
  induction h with
  | digit hc =>
    rw [List.singleton_append, split_cons_of_continues (continues_of_isDigit hc _),
      List.singleton_append]
  | cons hc h ih =>
    rw [List.cons_append, split_cons_of_continues (continues_of_isDigit hc _), ih,
      List.cons_append]
  | @separate c literal hc h ih =>
    obtain ⟨d, tail, rfl, hd⟩ := h.exists_cons
    have hunder : continues '_' (d :: tail ++ rest).head? := by simp [continues, hd]
    rw [List.cons_append, List.cons_append,
      split_cons_of_continues (continues_of_isDigit hc _), split_cons_of_continues hunder, ih]
    rfl

/-- A literal ends where it cannot go on, and nowhere before. -/
theorem split_append_of_stops {literal rest : List Char} (h : IsLiteral literal)
    (hr : Stops rest) : split (literal ++ rest) = (literal, rest) := by
  rw [split_literal_append h, split_of_stops hr, List.append_nil]

/-! ## Values -/

/-- The number that the digits of a literal write in decimal. -/
def decimalValue (literal : List Char) : Nat :=
  Nat.ofDigitChars 10 (literal.filter Char.isDigit) 0

theorem decimalValue_concat_of_isDigit {c : Char} (hc : c.isDigit) (literal : List Char) :
    decimalValue (literal ++ [c]) = 10 * decimalValue literal + (c.toNat - '0'.toNat) := by
  have hfilter : [c].filter Char.isDigit = [c] := by simp [hc]
  rw [decimalValue, List.filter_append, hfilter, Nat.ofDigitChars_append, Nat.ofDigitChars_cons,
    Nat.ofDigitChars_nil, decimalValue]

theorem decimalValue_concat_underscore (literal : List Char) :
    decimalValue (literal ++ ['_']) = decimalValue literal := by
  have hfilter : ['_'].filter Char.isDigit = [] := by decide
  rw [decimalValue, List.filter_append, hfilter, List.append_nil, decimalValue]

theorem value?_concat (literal : List Char) (c : Char) :
    value? (literal ++ [c]) =
      (value? literal).bind fun v =>
        if c == '_' then some v else appendDigit? v (c.toNat - '0'.toNat) := by
  rw [value?, List.foldlM_append, value?]
  simp only [List.foldlM_cons, List.foldlM_nil, bind_pure]
  rfl

theorem IsLiteral.isDigit_or_eq {literal : List Char} (h : IsLiteral literal) :
    ∀ c ∈ literal, c.isDigit ∨ c = '_' := by
  induction h with
  | digit hc => simp [hc]
  | cons hc h ih => simp only [List.forall_mem_cons, hc, true_or, true_and]; exact ih
  | separate hc h ih =>
    simp only [List.forall_mem_cons, hc, true_or, or_true, true_and]
    exact ih

/-- A word that overflowed on the way would overflow at the end. -/
theorem value?_of_digits {literal : List Char} (h : ∀ c ∈ literal, c.isDigit ∨ c = '_') :
    value? literal =
      if decimalValue literal < UInt64.size then some (UInt64.ofNat (decimalValue literal))
      else none := by
  induction literal using List.reverseRecOn with
  | nil => rfl
  | append_singleton literal c ih =>
    rw [List.forall_mem_append, List.forall_mem_singleton] at h
    rw [value?_concat, ih h.1]
    rcases h.2 with hc | rfl
    · have hne : (c == '_') = false := by
        rw [beq_eq_false_iff_ne]
        rintro rfl
        exact absurd hc (by decide)
      rw [decimalValue_concat_of_isDigit hc, hne]
      by_cases hlt : decimalValue literal < UInt64.size
      · have hword : (UInt64.ofNat (decimalValue literal)).toNat = decimalValue literal :=
          UInt64.toNat_ofNat_of_lt' hlt
        rw [if_pos hlt, Option.bind_some, if_neg Bool.false_ne_true, appendDigit?, hword,
          Nat.mul_comm]
      · rw [if_neg hlt, if_neg (by omega), Option.bind_none]
    · rw [decimalValue_concat_underscore]
      simp

theorem value?_eq {literal : List Char} (h : IsLiteral literal) :
    value? literal =
      if decimalValue literal < UInt64.size then some (UInt64.ofNat (decimalValue literal))
      else none :=
  value?_of_digits h.isDigit_or_eq

/-! ## Decimal texts -/

/-- Digits alone are a literal. -/
theorem isLiteral_of_isDigit {digits : List Char} (hne : digits ≠ [])
    (h : ∀ c ∈ digits, c.isDigit) : IsLiteral digits := by
  induction digits with
  | nil => exact absurd rfl hne
  | cons c digits ih =>
    rw [List.forall_mem_cons] at h
    cases digits with
    | nil => exact .digit h.1
    | cons d digits => exact .cons h.1 (ih (List.cons_ne_nil d digits) h.2)

theorem isLiteral_toString (v : UInt64) : IsLiteral (toString v).toList := by
  refine isLiteral_of_isDigit ?_ fun c => isDigit_of_mem_toString
  rw [← toString_toNat, toList_toString]
  exact Nat.toDigits_ne_nil

theorem decimalValue_toString (v : UInt64) : decimalValue (toString v).toList = v.toNat := by
  rw [← toString_toNat, decimalValue, List.filter_eq_self.2 fun c => isDigit_of_mem_toString,
    toList_toString, Nat.ofDigitChars_ten_toDigits]

/-- A word is read back from its decimal text. -/
theorem value?_toString (v : UInt64) : value? (toString v).toList = some v := by
  rw [value?_eq (isLiteral_toString v), decimalValue_toString, if_pos v.toNat_lt,
    UInt64.ofNat_toNat]

/-- The value of a literal is the number that its digits write, or the largest word. -/
theorem toNat_getD_value? {literal : List Char} (h : IsLiteral literal) :
    ((value? literal).getD largest).toNat = min (decimalValue literal) (UInt64.size - 1) := by
  rw [value?_eq h]
  by_cases hlt : decimalValue literal < UInt64.size
  · have hword := UInt64.toNat_ofNat_of_lt' hlt
    rw [if_pos hlt, Option.getD_some, hword]
    omega
  · have hlargest : largest.toNat = UInt64.size - 1 := by decide
    rw [if_neg hlt, Option.getD_none, hlargest]
    omega

/-! ## Plain literals -/

/-- A literal without underscores and without zeros in front, whose value a word holds. -/
def IsPlain (literal : List Char) : Prop :=
  '_' ∉ literal ∧ (1 < literal.length → literal.head? ≠ some '0') ∧
    decimalValue literal < UInt64.size

instance (literal : List Char) : Decidable (IsPlain literal) :=
  inferInstanceAs (Decidable (_ ∧ _ ∧ _))

/-- Digits without zeros in front are the decimal text of the number that they write. -/
theorem toDigits_decimalValue {digits : List Char} (hne : digits ≠ [])
    (h : ∀ c ∈ digits, c.isDigit) (hzero : 1 < digits.length → digits.head? ≠ some '0') :
    Nat.toDigits 10 (decimalValue digits) = digits := by
  induction digits using List.reverseRecOn with
  | nil => exact absurd rfl hne
  | append_singleton digits c ih =>
    rw [List.forall_mem_append, List.forall_mem_singleton] at h
    have hlast := toDigits_digit h.2
    rw [decimalValue_concat_of_isDigit h.2]
    by_cases hnil : digits = []
    · have hnone : decimalValue [] = 0 := rfl
      rw [hnil, hnone, Nat.mul_zero, Nat.zero_add]
      exact hlast
    · rw [List.head?_append_of_ne_nil _ hnil, List.length_append, List.length_singleton] at hzero
      have hlength := List.length_pos_iff.2 hnil
      have hfront := ih hnil h.1 fun _ => hzero (by omega)
      -- The digits in front are no lone zero, so their number goes on in the decimal text.
      have hpos : 0 < decimalValue digits := by
        by_contra hle
        rw [Nat.eq_zero_of_not_pos hle, Nat.toDigits_zero] at hfront
        exact hzero (by omega) (hfront ▸ rfl)
      rw [← Nat.toDigits_append_toDigits (by decide) hpos (digit_lt_ten h.2), hfront, hlast]

theorem isPlain_toString (v : UInt64) : IsPlain (toString v).toList := by
  refine ⟨notMem_toString (by decide) v.toNat, fun hlength => ?_, ?_⟩
  · rw [← toString_toNat] at hlength ⊢
    exact head?_toString_ne hlength
  · rw [decimalValue_toString]
    exact v.toNat_lt

/-- The plain literals are those that are written as the decimal text of their value. -/
theorem toString_value_eq_iff {literal : List Char} (h : IsLiteral literal) :
    toString ((value? literal).getD largest) = String.ofList literal ↔ IsPlain literal := by
  constructor
  · intro heq
    have hplain := isPlain_toString ((value? literal).getD largest)
    rwa [heq, String.toList_ofList] at hplain
  · rintro ⟨hunder, hzero, hlt⟩
    have hdigits : ∀ c ∈ literal, c.isDigit := by
      intro c hc
      refine (h.isDigit_or_eq c hc).resolve_right ?_
      rintro rfl
      exact hunder hc
    have hne : literal ≠ [] := by
      obtain ⟨c, rest, rfl, -⟩ := h.exists_cons
      exact List.cons_ne_nil c rest
    have hvalue := toNat_getD_value? h
    rw [Nat.min_eq_left (by omega)] at hvalue
    rw [← toString_toNat, hvalue, ← String.toList_inj, toList_toString, String.toList_ofList]
    exact toDigits_decimalValue hne hdigits hzero

end Lexicon.Numeral
