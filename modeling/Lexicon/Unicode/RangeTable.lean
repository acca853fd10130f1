/-!
# Range tables

A property of code points is tabulated as blocks, each a range of code points with one value.  The
blocks stand in increasing order on short pages, and a tree of split points leads to the page that
may hold a given code point, so that a lookup walks a few splits and one page.
-/

namespace Lexicon.Unicode

/-- The code points `first` to `last`, both included, with the value they share. -/
structure Block (α : Type) where
  first : Nat
  last : Nat
  value : α

/-- Whether code point `n` lies in the block. -/
def Block.covers {α : Type} (b : Block α) (n : Nat) : Bool := b.first.ble n && n.ble b.last

/-- Blocks in increasing order, on pages under a tree of split points. -/
inductive RangeTable (α : Type) where
  | page (blocks : List (Block α))
  | split (start : Nat) (below above : RangeTable α)

namespace RangeTable

variable {α : Type}

/-- All blocks, in increasing order. -/
def blocks : RangeTable α → List (Block α)
  | page bs => bs
  | split _ below above => below.blocks ++ above.blocks

/-- The block that covers code point `n`. -/
def block? : RangeTable α → Nat → Option (Block α)
  | page bs, n => bs.find? (·.covers n)
  | split start below above, n => bif n.blt start then below.block? n else above.block? n

/-- The value of code point `n`. -/
def find? (t : RangeTable α) (n : Nat) : Option α := (t.block? n).map (·.value)

theorem covers_of_block? {t : RangeTable α} {n : Nat} {b : Block α} (h : t.block? n = some b) :
    b.covers n = true := by
  induction t with
  | page bs => exact List.find?_some (p := fun b : Block α => b.covers n) h
  | split start below above ihb iha =>
    rw [block?] at h
    cases hn : n.blt start <;> simp only [hn, cond_true, cond_false] at h
    · exact iha h
    · exact ihb h

theorem mem_blocks_of_block? {t : RangeTable α} {n : Nat} {b : Block α}
    (h : t.block? n = some b) : b ∈ t.blocks := by
  induction t with
  | page bs => exact List.mem_of_find?_eq_some h
  | split start below above ihb iha =>
    rw [block?] at h
    rw [blocks, List.mem_append]
    cases hn : n.blt start <;> simp only [hn, cond_true, cond_false] at h
    · exact .inr (iha h)
    · exact .inl (ihb h)

/-- A property that all blocks have holds of the value that is found. -/
theorem of_find? {t : RangeTable α} {p : α → Bool} (ht : t.blocks.all (p ·.value)) {n : Nat}
    {a : α} (h : t.find? n = some a) : p a := by
  obtain ⟨b, hb, rfl⟩ := Option.map_eq_some_iff.1 h
  exact List.all_eq_true.1 ht b (mem_blocks_of_block? hb)

end RangeTable

end Lexicon.Unicode
