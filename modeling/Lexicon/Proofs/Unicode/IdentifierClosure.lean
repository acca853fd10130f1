import Lexicon.Proofs.Unicode.Idempotence

/-!
# Identifiers in normal form

The three steps to the normal form keep the classes of identifiers.  A decomposition begins with a
character that starts an identifier if the decomposed character does, and goes on with characters
that continue one (`decompose_of_isIdentStart`); nothing moves in front of a character that starts
an identifier, which is never a mark; and a composite is of the class of its first character
(`keepsClass_of_compose?`).  So the normal form of an identifier is one too
(`exists_nfkc_eq_cons`).
-/

namespace Lexicon.Unicode

/-! ## Ranges with one value -/

namespace RangeTable

variable {α : Type}

/-- Whether a block covers a code point from `lo` to `hi`. -/
def touches (lo hi : Nat) (b : Block α) : Bool := lo.ble b.last && b.first.ble hi

/-- What is found for every code point from `lo` to `hi`, where they lie in one block or in a gap of
one page. -/
def findOn? : RangeTable α → Nat → Nat → Option (Option α)
  | page bs, lo, hi =>
    match bs.find? (touches lo hi) with
    | some b => if b.first ≤ lo ∧ hi ≤ b.last then some (some b.value) else none
    | none => some none
  | split start below above, lo, hi =>
    if hi < start then below.findOn? lo hi else if start ≤ lo then above.findOn? lo hi else none

theorem touches_of_covers {lo hi n : Nat} {b : Block α} (hlo : lo ≤ n) (hhi : n ≤ hi)
    (h : b.covers n) : touches lo hi b := by
  simp only [Block.covers, touches, Bool.and_eq_true, Nat.ble_eq] at h ⊢
  omega

/-- What covers a code point of the range is not in front of what touches the range. -/
theorem find?_covers {bs : List (Block α)} {lo hi n : Nat} (hlo : lo ≤ n) (hhi : n ≤ hi)
    {b : Block α} (h : bs.find? (touches lo hi) = some b) (hb : b.first ≤ lo ∧ hi ≤ b.last) :
    bs.find? (·.covers n) = some b := by
  obtain ⟨-, before, after, rfl, hbefore⟩ := List.find?_eq_some_iff_append.1 h
  rw [List.find?_eq_some_iff_append]
  refine ⟨?_, before, after, rfl, fun d hd => ?_⟩
  · simp only [Block.covers, Bool.and_eq_true, Nat.ble_eq]
    omega
  · rw [Bool.not_eq_true', ← Bool.not_eq_true]
    intro hcovers
    have := hbefore d hd
    rw [touches_of_covers hlo hhi hcovers] at this
    cases this

theorem find?_of_findOn? {t : RangeTable α} {lo hi n : Nat} {v : Option α}
    (h : t.findOn? lo hi = some v) (hlo : lo ≤ n) (hhi : n ≤ hi) : t.find? n = v := by
  rw [find?]
  induction t with
  | page bs =>
    rw [findOn?] at h
    rw [block?]
    cases hfind : bs.find? (touches lo hi) with
    | some b =>
      simp only [hfind] at h
      split_ifs at h with hb
      rw [find?_covers hlo hhi hfind hb, Option.map_some, Option.some.inj h]
    | none =>
      simp only [hfind] at h
      have hnone : bs.find? (·.covers n) = none := by
        rw [List.find?_eq_none] at hfind ⊢
        exact fun b hb hcovers => hfind b hb (touches_of_covers hlo hhi hcovers)
      rw [hnone, Option.map_none, Option.some.inj h]
  | split start below above ihb iha =>
    rw [findOn?] at h
    rw [block?]
    split_ifs at h with hbelow habove
    · have hn : n.blt start = true := Nat.blt_eq ▸ (by omega)
      rw [hn, cond_true]
      exact ihb h
    · have hn : n.blt start = false := by
        rw [← Bool.not_eq_true, Nat.blt_eq]
        omega
      rw [hn, cond_false]
      exact iha h

end RangeTable

/-- Where characters from `lo` to `hi` may stand, all of them beyond ASCII. -/
theorem CharClass.of_eq_of_findOn? {lo hi : Nat} {v : Option CharClass}
    (h : IdentifierClass.table.findOn? lo hi = some v) (hascii : 128 ≤ lo) {c : Char}
    (hlo : lo ≤ c.toNat) (hhi : c.toNat ≤ hi) : CharClass.of c = v.getD .other := by
  have hc : isAscii c = false := by
    rw [isAscii, decide_eq_false_iff_not]
    omega
  rw [CharClass.of, hc, if_neg Bool.false_ne_true, RangeTable.find?_of_findOn? h hlo hhi]

/-! ## Decomposition -/

/-- Whether code points begin with one that starts an identifier and go on with such as continue
one. -/
def spellsIdent : List Nat → Bool
  | [] => false
  | m :: ms => isIdentStart (Char.ofNat m) && ms.all fun m => isIdentContinue (Char.ofNat m)

theorem all_isIdentContinue_of_spellsIdent {ns : List Nat} (h : spellsIdent ns) :
    ns.all fun m => isIdentContinue (Char.ofNat m) := by
  cases ns with
  | nil => rfl
  | cons m ms =>
    obtain ⟨hm, hms⟩ := Bool.and_eq_true_iff.1 h
    rw [List.all_cons, isIdentContinue_of_isIdentStart hm, hms, Bool.and_true]

/-- Whether code points may stand for a character of the class. -/
def CharClass.keptBy : CharClass → List Nat → Bool
  | .start, ns => spellsIdent ns
  | .continuation, ns => ns.all fun m => isIdentContinue (Char.ofNat m)
  | .other, _ => true

/-- Whether the decompositions of a block keep the classes of its characters, which are looked up
one by one only where they differ. -/
def Decomposition.keepsClass (b : Block (List (List Nat))) : Bool :=
  match IdentifierClass.table.findOn? b.first b.last with
  | some v => Nat.ble 128 b.first && b.value.all (v.getD .other).keptBy
  | none =>
    b.value.zipIdx.all fun entry => (CharClass.of (Char.ofNat (b.first + entry.2))).keptBy entry.1

theorem Decomposition.keepsClass_table : table.blocks.all keepsClass := by
  decide +kernel

theorem Hangul.isIdentStart_of_jamo {n : Nat} (hlo : 0x1100 ≤ n) (hhi : n < 0x1200) :
    isIdentStart (Char.ofNat n) := by
  have hall : ∀ i < 0x100, isIdentStart (Char.ofNat (0x1100 + i)) := by decide +kernel
  have := hall (n - 0x1100) (by omega)
  rwa [Nat.add_sub_cancel' hlo] at this

theorem Hangul.spellsIdent_of_decompose? {n : Nat} {ns : List Nat} (h : decompose? n = some ns) :
    spellsIdent ns := by
  have hjamo : ∀ m ∈ ns, isIdentStart (Char.ofNat m) := by
    intro m hm
    obtain ⟨hlo, hhi⟩ := jamo_of_mem_decompose? h hm
    exact isIdentStart_of_jamo hlo hhi
  cases ns with
  | nil =>
    simp only [decompose?] at h
    split_ifs at h <;> cases h
  | cons m ms =>
    rw [List.forall_mem_cons] at hjamo
    rw [spellsIdent, hjamo.1, Bool.true_and, List.all_eq_true]
    exact fun m hm => isIdentContinue_of_isIdentStart (hjamo.2 m hm)

theorem keptBy_decompose {c : Char} {ns : List Nat}
    (h : Decomposition.codePoints? c.toNat = some ns) : (CharClass.of c).keptBy ns := by
  rcases Decomposition.codePoints?_eq_some h with h | ⟨b, hb, hcovers, hns⟩
  · have hspells := Hangul.spellsIdent_of_decompose? h
    cases CharClass.of c with
    | start => exact hspells
    | continuation => exact all_isIdentContinue_of_spellsIdent hspells
    | other => rfl
  · have hblock := List.all_eq_true.1 Decomposition.keepsClass_table b hb
    simp only [Block.covers, Bool.and_eq_true, Nat.ble_eq] at hcovers
    rw [Decomposition.keepsClass] at hblock
    cases hv : IdentifierClass.table.findOn? b.first b.last with
    | some v =>
      simp only [hv, Bool.and_eq_true, Nat.ble_eq] at hblock
      rw [CharClass.of_eq_of_findOn? hv hblock.1 hcovers.1 hcovers.2]
      exact List.all_eq_true.1 hblock.2 ns (List.mem_of_getElem? hns)
    | none =>
      simp only [hv] at hblock
      have hentry := List.all_eq_true.1 hblock (ns, c.toNat - b.first)
        (List.mem_zipIdx_iff_getElem?.2 hns)
      rwa [Nat.add_sub_cancel' hcovers.1, Char.ofNat_toNat] at hentry

section Decompose

variable {c d : Char}

theorem decompose_of_isIdentStart (h : isIdentStart c) :
    ∃ d ds, decompose c = d :: ds ∧ isIdentStart d ∧ ∀ e ∈ ds, isIdentContinue e := by
  rw [decompose]
  cases hc : Decomposition.codePoints? c.toNat with
  | none => exact ⟨c, [], rfl, h, List.forall_mem_nil _⟩
  | some ns =>
    have hkept := keptBy_decompose hc
    have hclass : CharClass.of c = .start := by simpa [isIdentStart] using h
    rw [hclass, CharClass.keptBy] at hkept
    cases ns with
    | nil => cases hkept
    | cons m ms =>
      obtain ⟨hm, hms⟩ := Bool.and_eq_true_iff.1 hkept
      refine ⟨Char.ofNat m, ms.map Char.ofNat, rfl, hm, fun e he => ?_⟩
      obtain ⟨n, hn, rfl⟩ := List.mem_map.1 he
      exact List.all_eq_true.1 hms n hn

theorem isIdentContinue_of_mem_decompose (h : isIdentContinue c) (hd : d ∈ decompose c) :
    isIdentContinue d := by
  rw [decompose] at hd
  cases hc : Decomposition.codePoints? c.toNat with
  | none =>
    rw [hc] at hd
    obtain rfl := List.mem_singleton.1 hd
    exact h
  | some ns =>
    rw [hc] at hd
    obtain ⟨n, hn, rfl⟩ := List.mem_map.1 hd
    have hkept := keptBy_decompose hc
    have hall : ns.all fun m => isIdentContinue (Char.ofNat m) := by
      cases hclass : CharClass.of c with
      | start =>
        rw [hclass] at hkept
        exact all_isIdentContinue_of_spellsIdent hkept
      | continuation =>
        rw [hclass] at hkept
        exact hkept
      | other => simp [isIdentContinue, hclass] at h
    exact List.all_eq_true.1 hall n hn

end Decompose

/-! ## Combining classes -/

theorem CombiningClass.not_isIdentStart_table :
    table.blocks.all fun b =>
      (List.range' b.first (b.last + 1 - b.first)).all fun n => !isIdentStart (Char.ofNat n) := by
  decide +kernel

/-- No mark starts an identifier. -/
theorem combiningClass_of_isIdentStart {c : Char} (h : isIdentStart c) : combiningClass c = 0 := by
  rw [combiningClass, RangeTable.find?]
  cases hb : CombiningClass.table.block? c.toNat with
  | none => rfl
  | some b =>
    have hblock := List.all_eq_true.1 CombiningClass.not_isIdentStart_table b
      (RangeTable.mem_blocks_of_block? hb)
    have hcovers := RangeTable.covers_of_block? hb
    simp only [Block.covers, Bool.and_eq_true, Nat.ble_eq] at hcovers
    have hmark := List.all_eq_true.1 hblock c.toNat (List.mem_range'_1.2 ⟨hcovers.1, by omega⟩)
    rw [Char.ofNat_toNat, h] at hmark
    cases hmark

/-! ## Composition -/

/-- Whether the composites of a block are of the class of its first character. -/
def Composition.keepsClass (b : Block (List (Nat × Nat))) : Bool :=
  b.value.all fun pair =>
    (!isIdentStart (Char.ofNat b.first) || isIdentStart (Char.ofNat pair.2)) &&
      (!isIdentContinue (Char.ofNat b.first) || isIdentContinue (Char.ofNat pair.2))

theorem Composition.keepsClass_table : table.blocks.all keepsClass := by
  decide +kernel

theorem Hangul.isIdentStart_syllable {lead vowel trail : Nat} (hl : lead < leadCount)
    (hv : vowel < vowelCount) (ht : trail < trailCount) :
    isIdentStart (Char.ofNat (syllable lead vowel trail)) := by
  have hnat := toNat_ofNat (isScalar_syllable hl hv ht)
  have hrange : 0xAC00 ≤ syllable lead vowel trail ∧ syllable lead vowel trail ≤ 0xD7A3 := by
    simp only [leadCount, vowelCount, trailCount] at hl hv ht
    simp only [syllable, syllableBase, vowelCount, trailCount]
    omega
  have hfound : IdentifierClass.table.findOn? 0xAC00 0xD7A3 = some (some .start) := by rfl
  rw [← hnat] at hrange
  have hclass : CharClass.of (Char.ofNat (syllable lead vowel trail)) = .start :=
    CharClass.of_eq_of_findOn? hfound (by decide) hrange.1 hrange.2
  rw [isIdentStart, hclass]
  rfl

theorem keepsClass_of_compose? {a b c : Char} (h : compose? a b = some c) :
    (isIdentStart a → isIdentStart c) ∧ (isIdentContinue a → isIdentContinue c) := by
  obtain ⟨n, hn, rfl⟩ := Option.map_eq_some_iff.1 h
  rcases Composition.codePoint?_eq_some hn with hn | ⟨block, hblock, hfirst, hpair⟩
  · obtain ⟨lead, vowel, trail, hl, hv, ht, rfl, -⟩ := Hangul.exists_of_compose? hn
    have hstart := Hangul.isIdentStart_syllable hl hv ht
    exact ⟨fun _ => hstart, fun _ => isIdentContinue_of_isIdentStart hstart⟩
  · have hkeeps := List.all_eq_true.1 (List.all_eq_true.1 Composition.keepsClass_table block hblock)
      _ hpair
    rw [hfirst, Char.ofNat_toNat, Bool.and_eq_true_iff] at hkeeps
    constructor
    · intro ha
      simpa [ha] using hkeeps.1
    · intro ha
      simpa [ha] using hkeeps.2

/-! ## Texts -/

theorem isIdentContinue_of_mem_composeFrom {starter : Char} {held rest : List Char}
    (hs : isIdentContinue starter) (hheld : ∀ c ∈ held, isIdentContinue c)
    (hrest : ∀ c ∈ rest, isIdentContinue c) :
    ∀ c ∈ composeFrom starter held rest, isIdentContinue c := by
  fun_induction composeFrom starter held rest with
  | case1 starter held =>
    exact List.forall_mem_cons.2 ⟨hs, fun c hc => hheld c (List.mem_reverse.1 hc)⟩
  | case2 starter held c rest composite hcomp ih =>
    rw [List.forall_mem_cons] at hrest
    obtain ⟨-, hcompose⟩ := compose?_of_composed hcomp
    exact ih ((keepsClass_of_compose? hcompose).2 hs) hheld hrest.2
  | case3 starter held c rest hnone hstarter ih =>
    rw [List.forall_mem_cons] at hrest
    rw [List.forall_mem_cons, List.forall_mem_append]
    have hmore := ih hrest.1 (List.forall_mem_nil _) hrest.2
    exact ⟨hs, fun c hc => hheld c (List.mem_reverse.1 hc), hmore⟩
  | case4 starter held c rest hnone hmark ih =>
    rw [List.forall_mem_cons] at hrest
    exact ih hs (List.forall_mem_cons.2 ⟨hrest.1, hheld⟩) hrest.2

theorem exists_composeFrom_eq_cons {starter : Char} (hs : isIdentStart starter)
    (held rest : List Char) :
    ∃ c more, composeFrom starter held rest = c :: more ∧ isIdentStart c := by
  fun_induction composeFrom starter held rest with
  | case1 starter held => exact ⟨starter, _, rfl, hs⟩
  | case2 starter held c rest composite hcomp ih =>
    obtain ⟨-, hcompose⟩ := compose?_of_composed hcomp
    exact ih ((keepsClass_of_compose? hcompose).1 hs)
  | case3 starter held c rest hnone hstarter ih => exact ⟨starter, _, rfl, hs⟩
  | case4 starter held c rest hnone hmark ih => exact ih hs

/-- The normal form of a character that starts an identifier, with characters behind it that
continue one, is of the same kind. -/
theorem exists_nfkc_eq_cons {c : Char} {rest : List Char} (hc : isIdentStart c)
    (hrest : ∀ d ∈ rest, isIdentContinue d) :
    ∃ d more, nfkc (c :: rest) = d :: more ∧ isIdentStart d ∧ ∀ e ∈ more, isIdentContinue e := by
  obtain ⟨d, ds, hdecomp, hd, hds⟩ := decompose_of_isIdentStart hc
  have hstarter := combiningClass_of_isIdentStart hd
  have hmarks : ∀ e ∈ canonicalOrder (ds ++ rest.flatMap decompose), isIdentContinue e := by
    intro e he
    rcases List.mem_append.1 ((perm_canonicalOrder _).mem_iff.1 he) with he | he
    · exact hds e he
    · obtain ⟨f, hf, he⟩ := List.mem_flatMap.1 he
      exact isIdentContinue_of_mem_decompose (hrest f hf) he
  have hform : nfkc (c :: rest) =
      composeFrom d [] (canonicalOrder (ds ++ rest.flatMap decompose)) := by
    rw [nfkc, List.flatMap_cons, hdecomp, List.cons_append, canonicalOrder_cons,
      insertMark_of_starter hstarter, composeAll, if_pos hstarter]
  obtain ⟨e, more, hcons, he⟩ := exists_composeFrom_eq_cons hd []
    (canonicalOrder (ds ++ rest.flatMap decompose))
  have hall := isIdentContinue_of_mem_composeFrom (isIdentContinue_of_isIdentStart hd)
    (List.forall_mem_nil _) hmarks
  rw [hcons, List.forall_mem_cons] at hall
  exact ⟨e, more, hform.trans hcons, he, hall.2⟩

end Lexicon.Unicode
