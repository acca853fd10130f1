import Lexicon.Proofs.Unicode.CanonicalOrder
import Lexicon.Proofs.Unicode.Decomposition

/-!
# Idempotence

Composing keeps what a text decomposes to: the marks between a starter and what it is composed with
are of lower classes, so in canonical order the latter may as well stand directly behind the starter
(`canonicalOrder_composeFrom`).  Hence a text and its normal form have the same decomposed form
(`nfkd_nfkc`), and a normal form is its own normal form (`nfkc_nfkc`).
-/

namespace Lexicon.Unicode

/-- The decomposed form of a text, from which its normal form is composed. -/
def nfkd (text : List Char) : List Char := canonicalOrder (text.flatMap decompose)

theorem nfkc_eq_composeAll (text : List Char) : nfkc text = composeAll (nfkd text) := rfl

/-! ## Decomposed texts -/

/-- Every character of the text stands for itself. -/
def IsDecomposed (text : List Char) : Prop := ∀ c ∈ text, decompose c = [c]

theorem IsDecomposed.flatMap_decompose {text : List Char} (h : IsDecomposed text) :
    text.flatMap decompose = text := by
  induction text with
  | nil => rfl
  | cons c text ih =>
    obtain ⟨hc, htext⟩ := List.forall_mem_cons.1 h
    rw [List.flatMap_cons, hc, ih htext, List.singleton_append]

theorem isDecomposed_nfkd (text : List Char) : IsDecomposed (nfkd text) := by
  intro d hd
  obtain ⟨c, -, hd⟩ := List.mem_flatMap.1 ((perm_canonicalOrder _).mem_iff.1 hd)
  exact decompose_of_mem_decompose hd

/-! ## Composing -/

/-- The marks `held` since a starter, last one first, are in canonical order with `rest` behind
them. -/
structure HeldBefore (held rest : List Char) : Prop where
  marks : ∀ m ∈ held, 0 < combiningClass m
  sorted : held.Pairwise fun m m' => combiningClass m' ≤ combiningClass m
  last : ∀ m ∈ held.head?, ∀ d ∈ rest.head?, ¬ Precedes d m
  ordered : IsOrdered rest

namespace HeldBefore

variable {held rest : List Char} {c : Char}

theorem of_isOrdered (h : IsOrdered rest) : HeldBefore [] rest :=
  ⟨nofun, List.Pairwise.nil, nofun, h⟩

theorem le_last {m m' : Char} (h : HeldBefore (m :: held) rest) (hm : m' ∈ m :: held) :
    combiningClass m' ≤ combiningClass m := by
  rcases List.mem_cons.1 hm with rfl | hm
  · exact Nat.le_refl _
  · exact (List.pairwise_cons.1 h.sorted).1 m' hm

/-- All marks held precede a character that they do not keep away from the starter. -/
theorem precedes (h : HeldBefore held rest) (hc : isBlocked held c = false) :
    ∀ m ∈ held, Precedes m c := by
  cases held with
  | nil => exact nofun
  | cons m held =>
    have hlt : combiningClass m < combiningClass c := by simpa [isBlocked] using hc
    exact fun m' hm => ⟨h.marks m' hm, Nat.lt_of_le_of_lt (h.le_last hm) hlt⟩

/-- A character that is composed leaves the marks in order. -/
theorem of_composed (h : HeldBefore held (c :: rest)) (hc : isBlocked held c = false) :
    HeldBefore held rest := by
  refine ⟨h.marks, h.sorted, fun m hm d hd hprec => ?_, h.ordered.tail⟩
  have hlt : Precedes m c := h.precedes hc m (List.mem_of_head? hm)
  exact (isOrdered_cons_iff.1 h.ordered).1 d hd ⟨hprec.1, Nat.lt_trans hprec.2 hlt.2⟩

theorem of_mark (h : HeldBefore held (c :: rest)) (hc : combiningClass c ≠ 0) :
    HeldBefore (c :: held) rest := by
  have hpos : 0 < combiningClass c := Nat.pos_of_ne_zero hc
  refine ⟨List.forall_mem_cons.2 ⟨hpos, h.marks⟩, List.pairwise_cons.2 ⟨?_, h.sorted⟩, ?_,
    h.ordered.tail⟩
  · cases held with
    | nil => exact nofun
    | cons m held =>
      have hle : combiningClass m ≤ combiningClass c :=
        Nat.le_of_not_lt fun hlt => h.last m rfl c rfl ⟨hpos, hlt⟩
      exact fun m' hm => Nat.le_trans (h.le_last hm) hle
  · intro m hm
    obtain rfl := Option.some.inj hm
    exact (isOrdered_cons_iff.1 h.ordered).1

end HeldBefore

/-- A character is composed only where no mark keeps it away from the starter. -/
theorem compose?_of_composed {starter c composite : Char} {held : List Char}
    (h : (if isBlocked held c then none else compose? starter c) = some composite) :
    isBlocked held c = false ∧ compose? starter c = some composite := by
  split_ifs at h with hblocked
  exact ⟨by simpa using hblocked, h⟩

/-- Composing keeps what a starter and the characters behind it decompose to. -/
theorem canonicalOrder_composeFrom {starter : Char} {held rest : List Char}
    (h : HeldBefore held rest) (hheld : IsDecomposed held) (hrest : IsDecomposed rest) :
    canonicalOrder ((composeFrom starter held rest).flatMap decompose) =
      canonicalOrder (decompose starter ++ (held.reverse ++ rest)) := by
  fun_induction composeFrom starter held rest with
  | case1 starter held =>
    have hrev : IsDecomposed held.reverse := fun c hc => hheld c (List.mem_reverse.1 hc)
    rw [List.flatMap_cons, hrev.flatMap_decompose, List.append_nil]
  | case2 starter held c rest composite hcomp ih =>
    obtain ⟨hc, hrest⟩ := List.forall_mem_cons.1 hrest
    obtain ⟨hfree, hcompose⟩ := compose?_of_composed hcomp
    have hmove : canonicalOrder (held.reverse ++ c :: rest) =
        canonicalOrder (c :: (held.reverse ++ rest)) :=
      canonicalOrder_move (fun m hm => h.precedes hfree m (List.mem_reverse.1 hm)) rest
    rw [ih (h.of_composed hfree) hheld hrest, decompose_of_compose? hcompose, hc, List.append_assoc,
      List.singleton_append]
    exact canonicalOrder_append_congr hmove.symm _
  | case3 starter held c rest hnone hstarter ih =>
    obtain ⟨hc, hrest⟩ := List.forall_mem_cons.1 hrest
    have hrev : IsDecomposed held.reverse := fun c hc => hheld c (List.mem_reverse.1 hc)
    have hnext := ih (.of_isOrdered h.ordered.tail) nofun hrest
    rw [hc, List.reverse_nil, List.nil_append, List.singleton_append] at hnext
    rw [List.flatMap_cons, List.flatMap_append, hrev.flatMap_decompose]
    exact canonicalOrder_append_congr (canonicalOrder_append_congr hnext _) _
  | case4 starter held c rest hnone hmark ih =>
    obtain ⟨hc, hrest⟩ := List.forall_mem_cons.1 hrest
    rw [ih (h.of_mark hmark) (List.forall_mem_cons.2 ⟨hc, hheld⟩) hrest, List.reverse_cons,
      List.append_assoc, List.singleton_append]

theorem canonicalOrder_composeAll {text : List Char} (h : IsOrdered text)
    (hd : IsDecomposed text) :
    canonicalOrder ((composeAll text).flatMap decompose) = canonicalOrder text := by
  induction text with
  | nil => rfl
  | cons c text ih =>
    obtain ⟨hc, htext⟩ := List.forall_mem_cons.1 hd
    rw [composeAll]
    split_ifs
    · rw [canonicalOrder_composeFrom (.of_isOrdered h.tail) nofun htext, hc, List.reverse_nil,
        List.nil_append, List.singleton_append]
    · rw [List.flatMap_cons, hc, List.singleton_append, canonicalOrder_cons, ih h.tail htext,
        canonicalOrder_cons]

/-! ## Normal forms -/

/-- A text and its normal form decompose alike. -/
theorem nfkd_nfkc (text : List Char) : nfkd (nfkc text) = nfkd text := by
  have hordered : IsOrdered (nfkd text) := isOrdered_canonicalOrder _
  calc nfkd (nfkc text)
      = canonicalOrder ((composeAll (nfkd text)).flatMap decompose) := rfl
    _ = canonicalOrder (nfkd text) := canonicalOrder_composeAll hordered (isDecomposed_nfkd text)
    _ = nfkd text := canonicalOrder_of_isOrdered hordered

theorem nfkc_nfkc (text : List Char) : nfkc (nfkc text) = nfkc text := by
  rw [nfkc_eq_composeAll, nfkd_nfkc, ← nfkc_eq_composeAll]

end Lexicon.Unicode
