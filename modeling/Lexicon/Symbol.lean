import Lexicon.Unicode.Normalization
import Std.Data.HashMap

/-!
# Symbols

A symbol stands for a string of a symbol table.  The table hands out the symbols 0, 1, 2, … in the
order in which new strings are interned, and counts how often a string was new and how often not.
-/

namespace Lexicon

/-- A string of a symbol table, by its index there.  The index is unbounded here, and is the same as
a number of 32 bits in all tables with at most `2 ^ 32` strings. -/
structure Symbol where
  index : Nat
  deriving DecidableEq, Repr, Ord

/-- No string stands in an empty table. -/
theorem indices_iff_empty (s : String) (i : Nat) :
    (∅ : Std.HashMap String Nat)[s]? = some i ↔ (#[] : Array String)[i]? = some s := by simp

/-- The strings that have symbols, and for each its symbol's index. -/
structure SymbolTable where
  indices : Std.HashMap String Nat := ∅
  strings : Array String := #[]
  /-- How often a string was interned that had a symbol. -/
  hits : Nat := 0
  /-- How often a string was interned that had none. -/
  misses : Nat := 0
  /-- A string has the index at which it stands, and no other. -/
  indices_iff : ∀ (s : String) (i : Nat), indices[s]? = some i ↔ strings[i]? = some s := by
    exact indices_iff_empty

/-- A symbol that the table never handed out. -/
inductive SymbolError where
  | notFound (index : Nat)
  deriving DecidableEq, Repr

def SymbolError.message : SymbolError → String
  | notFound index => s!"Symbol not found: index {index}"

/-- How a symbol table was used. -/
structure SymbolStatistics where
  /-- The number of strings. -/
  count : Nat
  hits : Nat
  misses : Nat
  deriving DecidableEq, Repr

namespace SymbolStatistics

/-- How often a string was interned. -/
def total (s : SymbolStatistics) : Nat := s.hits + s.misses

/-- The share of interned strings that had a symbol; 0 if none was interned. -/
def hitRate (s : SymbolStatistics) : Float :=
  if s.total = 0 then 0 else Float.ofNat s.hits / Float.ofNat s.total

end SymbolStatistics

namespace SymbolTable

/-- A new string goes to the end of the table, and the others stay where they are. -/
theorem insert_indices_iff (t : SymbolTable) {s : String} (h : t.indices[s]? = none) (r : String)
    (i : Nat) :
    (t.indices.insert s t.strings.size)[r]? = some i ↔ (t.strings.push s)[i]? = some r := by
  rw [Std.HashMap.getElem?_insert, Array.getElem?_push]
  by_cases hi : i = t.strings.size
  · subst hi
    by_cases hr : s = r
    · simp [hr]
    · have hn := t.indices_iff r t.strings.size
      simp only [Array.getElem?_size, reduceCtorEq, iff_false] at hn
      simp [hr, hn]
  · by_cases hr : s = r
    · subst hr
      have hn := t.indices_iff s i
      simp only [h, reduceCtorEq, false_iff] at hn
      simp [hi, hn, Ne.symm hi]
    · simp [hr, hi, t.indices_iff]

/-- Gives a new string the next symbol. -/
def add (t : SymbolTable) (s : String) : SymbolTable :=
  if h : t.indices[s]? = none then
    { t with
      indices := t.indices.insert s t.strings.size
      strings := t.strings.push s
      indices_iff := t.insert_indices_iff h }
  else t

/-- The symbol of `s`, which becomes the table's next string if it has none. -/
def intern (t : SymbolTable) (s : String) : Symbol × SymbolTable :=
  match t.indices[s]? with
  | some i => (⟨i⟩, { t with hits := t.hits + 1 })
  | none => (⟨t.strings.size⟩, { t.add s with misses := t.misses + 1 })

/-- The symbol of `s` if it has one. -/
def lookup? (t : SymbolTable) (s : String) : Option Symbol := t.indices[s]?.map Symbol.mk

/-- The string that a symbol stands for. -/
def get (t : SymbolTable) (sym : Symbol) : Except SymbolError String :=
  match t.strings[sym.index]? with
  | some s => .ok s
  | none => .error (.notFound sym.index)

/-- The string that a symbol stands for, empty if the table never handed it out. -/
def textOf (t : SymbolTable) (sym : Symbol) : String := (t.strings[sym.index]?).getD ""

/-- A symbol as shown to developers. -/
def describe (t : SymbolTable) (sym : Symbol) : String := s!"Symbol({t.textOf sym})"

def statistics (t : SymbolTable) : SymbolStatistics := ⟨t.indices.size, t.hits, t.misses⟩

/-- The symbol of the normal form of `s`. -/
def internNormalized (t : SymbolTable) (s : String) : Symbol × SymbolTable :=
  t.intern (String.ofList (Unicode.normalize s.toList))

/-! ## Strings keep their symbols -/

/-- All strings of `t` have the same symbols in `t'`. -/
def Extends (t' t : SymbolTable) : Prop :=
  ∀ (i : Nat) (s : String), t.strings[i]? = some s → t'.strings[i]? = some s

theorem extends_refl (t : SymbolTable) : t.Extends t := fun _ _ h => h

theorem Extends.trans {t t' t'' : SymbolTable} (h : t''.Extends t') (h' : t'.Extends t) :
    t''.Extends t := fun i s hs => h i s (h' i s hs)

theorem strings_add {t : SymbolTable} {s : String} (h : t.indices[s]? = none) :
    (t.add s).strings = t.strings.push s := by
  rw [add, dif_pos h]

theorem extends_intern (t : SymbolTable) (s : String) : (t.intern s).2.Extends t := by
  intro i r hr
  unfold intern
  split
  · exact hr
  · next hn =>
    have hlt : i < t.strings.size := (Array.getElem?_eq_some_iff.1 hr).1
    simp only [strings_add hn]
    rw [Array.getElem?_push_lt hlt]
    exact Array.getElem?_eq_getElem hlt ▸ hr

/-- A string stands in the table under the symbol that it got. -/
theorem getElem?_strings_intern (t : SymbolTable) (s : String) :
    (t.intern s).2.strings[(t.intern s).1.index]? = some s := by
  unfold intern
  split
  · next i h => exact (t.indices_iff s i).1 h
  · next hn =>
    simp only [strings_add hn]
    exact Array.getElem?_push_size

/-- A string that stands in the table keeps its symbol. -/
theorem fst_intern {t : SymbolTable} {s : String} {i : Nat} (h : t.strings[i]? = some s) :
    (t.intern s).1 = ⟨i⟩ := by
  have hi := (t.indices_iff s i).2 h
  unfold intern
  split
  · next j hj =>
    rw [hi] at hj
    rw [Option.some.inj hj]
  · next hn =>
    rw [hi] at hn
    cases hn

theorem Extends.fst_intern {t t' : SymbolTable} {s : String} (h : t'.Extends (t.intern s).2) :
    (t'.intern s).1 = (t.intern s).1 :=
  SymbolTable.fst_intern (h _ _ (t.getElem?_strings_intern s))

theorem textOf_eq {t : SymbolTable} {sym : Symbol} {s : String}
    (h : t.strings[sym.index]? = some s) : t.textOf sym = s := by
  rw [textOf, h, Option.getD_some]

/-- A symbol stands for its string in every later table. -/
theorem textOf_intern_of_extends {t t' : SymbolTable} {s : String}
    (h : t'.Extends (t.intern s).2) : t'.textOf (t.intern s).1 = s :=
  textOf_eq (h _ _ (t.getElem?_strings_intern s))

end SymbolTable

end Lexicon
