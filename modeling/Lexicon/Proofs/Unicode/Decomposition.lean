import Lexicon.Unicode.Normalization
import Mathlib.Tactic.ByContra
import Mathlib.Tactic.SplitIfs

/-!
# Decompositions and composites

The characters to which a character decomposes stand for themselves (`decompose_of_mem_decompose`),
and a composite decomposes to what its two characters decompose to (`decompose_of_compose?`).  Of
the listed characters both are checked block by block; of Hangul syllables they are arithmetic.
-/

namespace Lexicon.Unicode

/-! ## Code points -/

/-- Whether `n` is the code point of a character. -/
def isScalar (n : Nat) : Bool := n.blt 0xD800 || (Nat.blt 0xDFFF n && n.blt 0x110000)

theorem toNat_ofNat {n : Nat} (h : isScalar n) : (Char.ofNat n).toNat = n := by
  have hvalid : n.isValidChar := by
    simpa [isScalar, Nat.isValidChar] using h
  rw [Char.ofNat, dif_pos hvalid]
  exact UInt32.toNat_ofNatLT

namespace Decomposition

/-- The decomposition of a code point. -/
def codePoints (n : Nat) : List Nat := (codePoints? n).getD [n]

/-- Whether `n` is the code point of a character that stands for itself. -/
def isFull (n : Nat) : Bool := isScalar n && (codePoints? n).isNone

variable {n : Nat}

theorem isScalar_of_isFull (h : isFull n) : isScalar n := (Bool.and_eq_true_iff.1 h).1

theorem codePoints?_of_isFull (h : isFull n) : codePoints? n = none :=
  Option.isNone_iff_eq_none.1 (Bool.and_eq_true_iff.1 h).2

theorem codePoints_of_isFull (h : isFull n) : codePoints n = [n] := by
  rw [codePoints, codePoints?_of_isFull h, Option.getD_none]

end Decomposition

open Decomposition

theorem decompose_eq (c : Char) : decompose c = (codePoints c.toNat).map Char.ofNat := by
  rw [decompose, codePoints]
  cases codePoints? c.toNat with
  | some ns => rfl
  | none => rw [Option.getD_none, List.map_singleton, Char.ofNat_toNat]

/-! ## Hangul -/

namespace Hangul

/-- The conjoining jamo stand for themselves. -/
theorem isFull_of_jamo {n : Nat} (hlo : 0x1100 ≤ n) (hhi : n < 0x1200) : isFull n := by
  have hall : ∀ i < 0x100, isFull (0x1100 + i) := by decide +kernel
  have := hall (n - 0x1100) (by omega)
  rwa [Nat.add_sub_cancel' hlo] at this

/-- The code point of a syllable by its lead, vowel and trail. -/
def syllable (lead vowel trail : Nat) : Nat :=
  syllableBase + ((lead * vowelCount + vowel) * trailCount + trail)

theorem exists_eq_syllable {n : Nat} (hlo : syllableBase ≤ n)
    (hhi : n < syllableBase + syllableCount) :
    ∃ lead vowel trail, lead < leadCount ∧ vowel < vowelCount ∧ trail < trailCount ∧
      n = syllable lead vowel trail := by
  obtain ⟨s, rfl⟩ := Nat.exists_eq_add_of_le hlo
  simp only [syllable, syllableCount, leadCount, vowelCount, trailCount] at hhi ⊢
  exact ⟨s / 588, s / 28 % 21, s % 28, by omega, by omega, by omega, by omega⟩

section Syllable

variable {lead vowel trail : Nat} (hl : lead < leadCount) (hv : vowel < vowelCount)
  (ht : trail < trailCount)

include hl hv ht

theorem decompose?_syllable :
    decompose? (syllable lead vowel trail) =
      some (if trail = 0 then [leadBase + lead, vowelBase + vowel]
        else [leadBase + lead, vowelBase + vowel, trailBase + trail]) := by
  simp only [leadCount, vowelCount, trailCount] at hl hv ht
  have hlead : ((lead * 21 + vowel) * 28 + trail) / (21 * 28) = lead := by omega
  have hvowel : ((lead * 21 + vowel) * 28 + trail) / 28 % 21 = vowel := by omega
  have htrail : ((lead * 21 + vowel) * 28 + trail) % 28 = trail := by omega
  unfold decompose? syllable
  simp only [vowelCount, trailCount, Nat.add_sub_cancel_left, hlead, hvowel, htrail]
  rw [if_neg]
  simp only [syllableCount, leadCount, vowelCount, trailCount]
  omega

theorem codePoints_syllable :
    codePoints (syllable lead vowel trail) =
      if trail = 0 then [leadBase + lead, vowelBase + vowel]
        else [leadBase + lead, vowelBase + vowel, trailBase + trail] := by
  rw [codePoints, codePoints?, decompose?_syllable hl hv ht]
  rfl

theorem isScalar_syllable : isScalar (syllable lead vowel trail) := by
  simp only [leadCount, vowelCount, trailCount] at hl hv ht
  have hlt : syllable lead vowel trail < 0xD800 := by
    simp only [syllable, syllableBase, vowelCount, trailCount]
    omega
  rw [isScalar, Bool.or_eq_true]
  exact .inl (Nat.blt_eq ▸ hlt)

end Syllable

/-- A syllable decomposes to jamo. -/
theorem jamo_of_mem_decompose? {n m : Nat} {ns : List Nat} (h : decompose? n = some ns)
    (hm : m ∈ ns) : 0x1100 ≤ m ∧ m < 0x1200 := by
  have hrange : syllableBase ≤ n ∧ n < syllableBase + syllableCount := by
    by_contra hn
    rw [decompose?, if_pos (by omega)] at h
    cases h
  obtain ⟨lead, vowel, trail, hl, hv, ht, rfl⟩ := exists_eq_syllable hrange.1 hrange.2
  rw [decompose?_syllable hl hv ht, Option.some.injEq] at h
  subst h
  simp only [leadCount, vowelCount, trailCount] at hl hv ht
  simp only [leadBase, vowelBase, trailBase] at hm
  split_ifs at hm
  · simp only [List.mem_cons, List.not_mem_nil, or_false] at hm
    omega
  · simp only [List.mem_cons, List.not_mem_nil, or_false] at hm
    omega

/-- Composing yields a syllable, of the jamo to which the two parts decompose. -/
theorem exists_of_compose? {a b c : Nat} (h : compose? a b = some c) :
    ∃ lead vowel trail, lead < leadCount ∧ vowel < vowelCount ∧ trail < trailCount ∧
      c = syllable lead vowel trail ∧ codePoints c = codePoints a ++ codePoints b := by
  unfold compose? at h
  split_ifs at h with hlead htrail
  · obtain ⟨hla, hal, hvb, hbv⟩ := hlead
    obtain ⟨lead, rfl⟩ := Nat.exists_eq_add_of_le hla
    obtain ⟨vowel, rfl⟩ := Nat.exists_eq_add_of_le hvb
    rw [Nat.add_sub_cancel_left, Nat.add_sub_cancel_left] at h
    have hl : lead < leadCount := Nat.lt_of_add_lt_add_left hal
    have hv : vowel < vowelCount := Nat.lt_of_add_lt_add_left hbv
    have ht : 0 < trailCount := by decide
    have hc : c = syllable lead vowel 0 := (Option.some.inj h).symm
    have ha : isFull (leadBase + lead) := by
      apply isFull_of_jamo <;> simp only [leadBase, leadCount] at * <;> omega
    have hb : isFull (vowelBase + vowel) := by
      apply isFull_of_jamo <;> simp only [vowelBase, vowelCount] at * <;> omega
    refine ⟨lead, vowel, 0, hl, hv, ht, hc, ?_⟩
    rw [hc, codePoints_syllable hl hv ht, codePoints_of_isFull ha, codePoints_of_isFull hb]
    rfl
  · obtain ⟨hlo, hhi, hmod, hb, hbt⟩ := htrail
    obtain ⟨lead, vowel, trail, hl, hv, ht, rfl⟩ := exists_eq_syllable hlo hhi
    obtain ⟨t, rfl⟩ := Nat.exists_eq_add_of_le (Nat.le_of_lt hb)
    have ht0 : trail = 0 := by
      simp only [syllable, trailCount, Nat.add_sub_cancel_left] at hmod ht
      omega
    have htlt : t < trailCount := Nat.lt_of_add_lt_add_left hbt
    have htpos : t ≠ 0 := by omega
    have hc : c = syllable lead vowel t := by
      rw [← Option.some.inj h, ht0, Nat.add_sub_cancel_left, syllable, syllable]
      omega
    have hfull : isFull (trailBase + t) := by
      apply isFull_of_jamo <;> simp only [trailBase, trailCount] at * <;> omega
    refine ⟨lead, vowel, t, hl, hv, htlt, hc, ?_⟩
    rw [hc, codePoints_syllable hl hv htlt, codePoints_syllable hl hv ht, if_neg htpos, if_pos ht0,
      codePoints_of_isFull hfull]
    rfl

end Hangul

/-! ## Listed characters -/

/-- Whether the composites of a block decompose to what their two characters decompose to. -/
def Composition.agrees (b : Block (List (Nat × Nat))) : Bool :=
  b.first == b.last && b.value.all fun pair =>
    isScalar pair.2 && codePoints pair.2 == codePoints b.first ++ codePoints pair.1

theorem Decomposition.isFull_table :
    table.blocks.all fun b => b.value.all fun ns => ns.all isFull := by
  decide +kernel

theorem Composition.agrees_table : table.blocks.all agrees := by
  decide +kernel

theorem Decomposition.codePoints?_eq_some {n : Nat} {ns : List Nat} (h : codePoints? n = some ns) :
    Hangul.decompose? n = some ns ∨
      ∃ b ∈ table.blocks, b.covers n ∧ b.value[n - b.first]? = some ns := by
  rw [codePoints?, Option.orElse_eq_orElse, Option.orElse_eq_or, Option.or_eq_some_iff] at h
  rcases h with h | ⟨-, h⟩
  · exact .inl h
  · obtain ⟨b, hb, hns⟩ := Option.bind_eq_some_iff.1 h
    exact .inr ⟨b, RangeTable.mem_blocks_of_block? hb, RangeTable.covers_of_block? hb, hns⟩

theorem Decomposition.isFull_of_mem {n m : Nat} {ns : List Nat} (h : codePoints? n = some ns)
    (hm : m ∈ ns) : isFull m := by
  rcases codePoints?_eq_some h with h | ⟨b, hb, -, hns⟩
  · obtain ⟨hlo, hhi⟩ := Hangul.jamo_of_mem_decompose? h hm
    exact Hangul.isFull_of_jamo hlo hhi
  · have hvalue := List.all_eq_true.1 isFull_table b hb
    have hlist := List.all_eq_true.1 hvalue ns (List.mem_of_getElem? hns)
    exact List.all_eq_true.1 hlist m hm

theorem Composition.codePoint?_eq_some {a b c : Nat} (h : codePoint? a b = some c) :
    Hangul.compose? a b = some c ∨
      ∃ block ∈ table.blocks, block.first = a ∧ (b, c) ∈ block.value := by
  rw [codePoint?, Option.orElse_eq_orElse, Option.orElse_eq_or, Option.or_eq_some_iff] at h
  rcases h with h | ⟨-, h⟩
  · exact .inl h
  · obtain ⟨pairs, hpairs, hlookup⟩ := Option.bind_eq_some_iff.1 h
    obtain ⟨block, hblock, rfl⟩ := Option.map_eq_some_iff.1 hpairs
    have hmem := RangeTable.mem_blocks_of_block? hblock
    have hcovers := RangeTable.covers_of_block? hblock
    have hagrees := List.all_eq_true.1 agrees_table block hmem
    obtain ⟨before, after, hvalue, -⟩ := List.lookup_eq_some_iff.1 hlookup
    refine .inr ⟨block, hmem, ?_, by rw [hvalue]; simp⟩
    simp only [agrees, Block.covers, Bool.and_eq_true, beq_iff_eq, Nat.ble_eq] at hagrees hcovers
    omega

theorem Composition.codePoints_of_codePoint? {a b c : Nat} (h : codePoint? a b = some c) :
    isScalar c ∧ codePoints c = codePoints a ++ codePoints b := by
  rcases codePoint?_eq_some h with h | ⟨block, hblock, rfl, hpair⟩
  · obtain ⟨lead, vowel, trail, hl, hv, ht, hc, hpoints⟩ := Hangul.exists_of_compose? h
    exact ⟨hc ▸ Hangul.isScalar_syllable hl hv ht, hpoints⟩
  · have hagrees := List.all_eq_true.1 agrees_table block hblock
    simp only [agrees, Bool.and_eq_true, beq_iff_eq, List.all_eq_true] at hagrees
    exact hagrees.2 (b, c) hpair

/-! ## Characters -/

theorem decompose_of_mem_decompose {c d : Char} (h : d ∈ decompose c) : decompose d = [d] := by
  unfold decompose at h
  cases hc : codePoints? c.toNat with
  | some ns =>
    rw [hc] at h
    obtain ⟨m, hm, rfl⟩ := List.mem_map.1 h
    have hfull := isFull_of_mem hc hm
    rw [decompose, toNat_ofNat (isScalar_of_isFull hfull), codePoints?_of_isFull hfull]
  | none =>
    rw [hc] at h
    obtain rfl := List.mem_singleton.1 h
    rw [decompose, hc]

theorem decompose_of_compose? {a b c : Char} (h : compose? a b = some c) :
    decompose c = decompose a ++ decompose b := by
  obtain ⟨n, hn, rfl⟩ := Option.map_eq_some_iff.1 h
  obtain ⟨hscalar, hpoints⟩ := Composition.codePoints_of_codePoint? hn
  rw [decompose_eq, decompose_eq, decompose_eq, toNat_ofNat hscalar, hpoints, List.map_append]

end Lexicon.Unicode
