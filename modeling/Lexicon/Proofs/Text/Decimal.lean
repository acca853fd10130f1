import Mathlib.Data.List.Basic

/-!
# Decimal texts

Numbers are written as their decimal digits, and smaller numbers with no more of them.
-/

namespace Lexicon.Text

theorem toList_toString (n : Nat) : (toString n).toList = Nat.toDigits 10 n := Nat.toList_repr

theorem isDigit_of_mem_toString {n : Nat} {c : Char} (h : c ∈ (toString n).toList) :
    c.isDigit := by
  rw [toList_toString] at h
  exact Nat.isDigit_of_mem_toDigits (by decide) (by decide) h

theorem notMem_toString {c : Char} (hc : c.isDigit = false) (n : Nat) :
    c ∉ (toString n).toList := by
  intro h
  rw [isDigit_of_mem_toString h] at hc
  cases hc

theorem length_toString_le {m n : Nat} (h : m ≤ n) :
    (toString m).length ≤ (toString n).length := by
  have hpos : 0 < n.repr.length := Nat.length_repr_pos
  have hlt : n < 10 ^ n.repr.length := (Nat.length_repr_le_iff hpos).1 (Nat.le_refl _)
  exact (Nat.length_repr_le_iff hpos).2 (Nat.lt_of_le_of_lt h hlt)

theorem digit_lt_ten {c : Char} (hc : c.isDigit) : c.toNat - '0'.toNat < 10 := by
  have hhi : c.toNat ≤ 57 := (Char.isDigit_iff_toNat.1 hc).2
  show c.toNat - 48 < 10
  omega

/-- A digit alone is the decimal text of its number. -/
theorem toDigits_digit {c : Char} (hc : c.isDigit) :
    Nat.toDigits 10 (c.toNat - '0'.toNat) = [c] := by
  have hlo : 48 ≤ c.toNat := (Char.isDigit_iff_toNat.1 hc).1
  have hchar : (c.toNat - '0'.toNat).digitChar = c := by
    rw [← Char.toNat_inj, Nat.toNat_digitChar_of_lt_ten (digit_lt_ten hc)]
    show 48 + (c.toNat - 48) = c.toNat
    omega
  rw [Nat.toDigits_of_lt_base (digit_lt_ten hc), hchar]

theorem head?_toDigits_ne {n : Nat} (h : 0 < n) : (Nat.toDigits 10 n).head? ≠ some '0' := by
  induction n using Nat.strongRecOn with
  | _ n ih =>
    by_cases hlt : n < 10
    · rw [Nat.toDigits_of_lt_base hlt, List.head?_cons, Ne, Option.some.injEq,
        Nat.digitChar_eq_zero]
      omega
    · rw [Nat.toDigits_of_base_le (by decide) (by omega),
        List.head?_append_of_ne_nil _ Nat.toDigits_ne_nil]
      exact ih (n / 10) (by omega) (by omega)

/-- Only a lone zero is written in front. -/
theorem head?_toString_ne {n : Nat} (h : 1 < (toString n).toList.length) :
    (toString n).toList.head? ≠ some '0' := by
  rw [toList_toString] at h ⊢
  refine head?_toDigits_ne (Nat.pos_of_ne_zero ?_)
  rintro rfl
  exact absurd h (by decide)

/-- A word is written as the number that it holds. -/
theorem toString_toNat (v : UInt64) : toString v.toNat = toString v := rfl

end Lexicon.Text
