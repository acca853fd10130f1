import Lexicon.Symbol
import Mathlib.Data.List.Induction
import Mathlib.Data.List.Nodup
import Mathlib.Tactic.SplitIfs

/-!
# Symbol tables in use

A table that starts empty is called any number of times: strings are interned and looked up, symbols
are turned back into strings, and the statistics are read (`SymbolTable.run`).  The strings stand in
the table in the order in which they were first interned, and at any time of the run every symbol
that was handed out stands for the string it was handed out for, and for no other
(`SymbolTable.run_faithful`).
-/

namespace Lexicon

/-! ## First occurrences -/

section Distinct

variable {α : Type} [DecidableEq α]

theorem eraseDups_concat (l : List α) (a : α) :
    (l ++ [a]).eraseDups = if a ∈ l then l.eraseDups else l.eraseDups ++ [a] := by
  rw [List.eraseDups_append]
  split_ifs with h
  · simp [List.removeAll, h]
  · simp [List.removeAll, h, List.eraseDups_cons]

theorem nodup_eraseDups (l : List α) : l.eraseDups.Nodup := by
  induction l using List.reverseRecOn with
  | nil => exact List.nodup_nil
  | append_singleton l a ih =>
    rw [eraseDups_concat]
    split_ifs with h
    · exact ih
    · rw [← List.concat_eq_append, List.nodup_concat]
      exact ⟨fun ha => h (List.mem_eraseDups.1 ha), ih⟩

end Distinct

namespace SymbolTable

/-! ## Symbols and strings -/

theorem lookup?_eq_some_iff {t : SymbolTable} {s : String} {sym : Symbol} :
    t.lookup? s = some sym ↔ t.strings[sym.index]? = some s := by
  rw [lookup?, ← t.indices_iff, Option.map_eq_some_iff]
  constructor
  · rintro ⟨i, hi, rfl⟩
    exact hi
  · intro h
    exact ⟨sym.index, h, rfl⟩

theorem get_eq_ok_iff {t : SymbolTable} {s : String} {sym : Symbol} :
    t.get sym = .ok s ↔ t.strings[sym.index]? = some s := by
  unfold get
  split
  · next r hr => rw [hr, Except.ok.injEq, Option.some.injEq]
  · next hn => simp [hn]

theorem get_eq_error_iff {t : SymbolTable} {sym : Symbol} :
    t.get sym = .error (.notFound sym.index) ↔ t.strings[sym.index]? = none := by
  unfold get
  split
  · next r hr => simp [hr]
  · next hn => simp [hn]

/-- A string stands in one place only. -/
theorem symbol_unique {t : SymbolTable} {s : String} {a b : Symbol}
    (ha : t.strings[a.index]? = some s) (hb : t.strings[b.index]? = some s) : a = b := by
  rw [← lookup?_eq_some_iff] at ha hb
  exact Option.some.inj (ha.symm.trans hb)

theorem eq_of_textOf_eq {t : SymbolTable} {a b : Symbol} (ha : ∃ s, t.strings[a.index]? = some s)
    (hb : ∃ s, t.strings[b.index]? = some s) (h : t.textOf a = t.textOf b) : a = b := by
  obtain ⟨s, hs⟩ := ha
  obtain ⟨r, hr⟩ := hb
  rw [textOf_eq hs, textOf_eq hr] at h
  exact symbol_unique hs (h ▸ hr)

theorem nodup_strings (t : SymbolTable) : t.strings.toList.Nodup := by
  rw [List.nodup_iff_pairwise_ne, List.pairwise_iff_getElem]
  intro i j hi hj hij heq
  have hi' : t.strings[i]? = some t.strings.toList[i] := by
    rw [← Array.getElem?_toList, List.getElem?_eq_getElem hi]
  have hj' : t.strings[j]? = some t.strings.toList[i] := by
    rw [heq, ← Array.getElem?_toList, List.getElem?_eq_getElem hj]
  have hsym : (⟨i⟩ : Symbol) = ⟨j⟩ := symbol_unique hi' hj'
  exact Nat.ne_of_lt hij (congrArg Symbol.index hsym)

theorem mem_strings_iff {t : SymbolTable} {s : String} :
    s ∈ t.strings.toList ↔ ∃ i, t.indices[s]? = some i := by
  simp only [t.indices_iff, List.mem_iff_getElem?, Array.getElem?_toList]

/-- The map has an entry for every string. -/
theorem size_indices (t : SymbolTable) : t.indices.size = t.strings.size := by
  have hperm : t.indices.keys.Perm t.strings.toList := by
    rw [List.perm_ext_iff_of_nodup Std.HashMap.nodup_keys t.nodup_strings]
    intro s
    rw [Std.HashMap.mem_keys, Std.HashMap.mem_iff_isSome_getElem?, mem_strings_iff,
      Option.isSome_iff_exists]
  rw [← Std.HashMap.length_keys, hperm.length_eq, Array.length_toList]

/-- Interning a string that has a symbol is a hit, and interning any other is a miss. -/
theorem intern_cases (t : SymbolTable) (s : String) :
    s ∈ t.strings.toList ∧ (t.intern s).2.strings = t.strings ∧
        (t.intern s).2.hits = t.hits + 1 ∧ (t.intern s).2.misses = t.misses ∨
      s ∉ t.strings.toList ∧ (t.intern s).2.strings = t.strings.push s ∧
        (t.intern s).2.hits = t.hits ∧ (t.intern s).2.misses = t.misses + 1 := by
  rw [mem_strings_iff]
  unfold intern
  split
  · next i hi => exact .inl ⟨⟨i, hi⟩, rfl, rfl, rfl⟩
  · next hn =>
    refine .inr ⟨by simp [hn], strings_add hn, ?_, rfl⟩
    simp only [add, hn, dite_true]

/-! ## Runs -/

inductive Call where
  | intern (s : String)
  | lookup (s : String)
  | get (sym : Symbol)
  | statistics
  deriving DecidableEq, Repr

inductive Answer where
  | symbol (sym : Symbol)
  | found (sym : Option Symbol)
  | string (result : Except SymbolError String)
  | statistics (s : SymbolStatistics)

/-- Answers a call.  Only interning changes the table. -/
def perform (t : SymbolTable) : Call → Answer × SymbolTable
  | .intern s => (.symbol (t.intern s).1, (t.intern s).2)
  | .lookup s => (.found (t.lookup? s), t)
  | .get sym => (.string (t.get sym), t)
  | .statistics => (.statistics t.statistics, t)

/-- Calls on an empty table in turn, with their answers, and the table after them. -/
def run (calls : List Call) : List (Call × Answer) × SymbolTable :=
  calls.foldl
    (fun (log, t) call => (log ++ [(call, (t.perform call).1)], (t.perform call).2)) ([], {})

theorem run_concat (calls : List Call) (call : Call) :
    run (calls ++ [call]) =
      ((run calls).1 ++ [(call, ((run calls).2.perform call).1)],
        ((run calls).2.perform call).2) := by
  rw [run, List.foldl_append]
  rfl

def Call.interned? : Call → Option String
  | .intern s => some s
  | _ => none

/-- The strings that calls intern. -/
def internedBy (calls : List Call) : List String := calls.filterMap Call.interned?

theorem internedBy_concat_intern (calls : List Call) (s : String) :
    internedBy (calls ++ [.intern s]) = internedBy calls ++ [s] := by
  rw [internedBy, List.filterMap_append]
  rfl

theorem internedBy_concat {call : Call} (h : call.interned? = none) (calls : List Call) :
    internedBy (calls ++ [call]) = internedBy calls := by
  rw [internedBy, List.filterMap_append, List.filterMap_cons_none h, List.filterMap_nil,
    List.append_nil, internedBy]

/-- What every call keeps: the strings, the symbols handed out and the counts belong to the calls so
far. -/
structure Accounts (calls : List Call) (log : List (Call × Answer)) (t : SymbolTable) : Prop where
  answered : log.map (·.1) = calls
  strings_eq : t.strings.toList = (internedBy calls).eraseDups
  symbol_iff : ∀ s sym, (.intern s, .symbol sym) ∈ log ↔ t.strings[sym.index]? = some s
  total_eq : t.hits + t.misses = (internedBy calls).length
  misses_eq : t.misses = t.strings.size

theorem Accounts.intern {calls : List Call} {log : List (Call × Answer)} {t : SymbolTable}
    (h : Accounts calls log t) (s : String) :
    Accounts (calls ++ [.intern s]) (log ++ [(.intern s, .symbol (t.intern s).1)])
      (t.intern s).2 := by
  have hmem : s ∈ t.strings.toList ↔ s ∈ internedBy calls := by
    rw [h.strings_eq, List.mem_eraseDups]
  have hnew := t.getElem?_strings_intern s
  have htotal := h.total_eq
  have hmisses := h.misses_eq
  -- Old symbols keep their strings, and a string at the new symbol's place is the new one.
  have hsymbol : ∀ r sym,
      (.intern r, .symbol sym) ∈ log ++ [(.intern s, .symbol (t.intern s).1)] ↔
        (t.intern s).2.strings[sym.index]? = some r := by
    intro r sym
    rw [List.mem_append, h.symbol_iff, List.mem_singleton, Prod.mk.injEq, Call.intern.injEq,
      Answer.symbol.injEq]
    constructor
    · rintro (hold | ⟨rfl, rfl⟩)
      · exact t.extends_intern s _ _ hold
      · exact hnew
    · intro hr
      rcases t.intern_cases s with ⟨-, hstrings, -, -⟩ | ⟨-, hstrings, -, -⟩
      · rw [hstrings] at hr
        exact .inl hr
      · by_cases hindex : sym.index = t.strings.size
        · have hlast : (t.intern s).2.strings[sym.index]? = some s := by
            rw [hstrings, hindex, Array.getElem?_push_size]
          obtain rfl : s = r := Option.some.inj (hlast.symm.trans hr)
          exact .inr ⟨rfl, symbol_unique hlast hnew⟩
        · rw [hstrings, Array.getElem?_push, if_neg hindex] at hr
          exact .inl hr
  refine ⟨?_, ?_, hsymbol, ?_, ?_⟩
  · rw [List.map_append, h.answered]
    rfl
  · rw [internedBy_concat_intern, eraseDups_concat]
    rcases t.intern_cases s with ⟨hs, hstrings, -, -⟩ | ⟨hs, hstrings, -, -⟩
    · rw [if_pos (hmem.1 hs), hstrings, h.strings_eq]
    · rw [if_neg (mt hmem.2 hs), hstrings, Array.toList_push, h.strings_eq]
  · rw [internedBy_concat_intern, List.length_append, List.length_singleton]
    rcases t.intern_cases s with ⟨-, -, hhits, hmiss⟩ | ⟨-, -, hhits, hmiss⟩
    · omega
    · omega
  · rcases t.intern_cases s with ⟨-, hstrings, -, hmiss⟩ | ⟨-, hstrings, -, hmiss⟩
    · rw [hmiss, hstrings, hmisses]
    · rw [hmiss, hstrings, Array.size_push, hmisses]

/-- A call that does not intern leaves everything as it is. -/
theorem Accounts.read {calls : List Call} {log : List (Call × Answer)} {t : SymbolTable}
    (h : Accounts calls log t) {call : Call} (hcall : call.interned? = none) (answer : Answer) :
    Accounts (calls ++ [call]) (log ++ [(call, answer)]) t := by
  have hne : ∀ s sym, (Call.intern s, Answer.symbol sym) ≠ (call, answer) := by
    rintro s sym heq
    rw [← (Prod.mk.inj heq).1] at hcall
    cases hcall
  refine ⟨?_, ?_, fun s sym => ?_, ?_, h.misses_eq⟩
  · rw [List.map_append, h.answered]
    rfl
  · rw [internedBy_concat hcall, h.strings_eq]
  · rw [List.mem_append, List.mem_singleton, h.symbol_iff, or_iff_left (hne s sym)]
  · rw [internedBy_concat hcall, h.total_eq]

theorem accounts_run (calls : List Call) : Accounts calls (run calls).1 (run calls).2 := by
  induction calls using List.reverseRecOn with
  | nil => exact ⟨rfl, rfl, by simp [run], rfl, rfl⟩
  | append_singleton calls call ih =>
    rw [run_concat]
    cases call with
    | intern s => exact ih.intern s
    | lookup s => exact ih.read rfl _
    | get sym => exact ih.read rfl _
    | statistics => exact ih.read rfl _

/-- What a table `t` is after `calls`, which were answered as `log` says. -/
structure Faithful (calls : List Call) (log : List (Call × Answer)) (t : SymbolTable) : Prop where
  answered : log.map (·.1) = calls
  /-- The strings stand in the order in which they were first interned. -/
  strings_eq : t.strings.toList = (internedBy calls).eraseDups
  indices_eq_iff : ∀ (s : String) (i : Nat), t.indices[s]? = some i ↔ t.strings[i]? = some s
  /-- The symbols 0, 1, 2, … were handed out for the strings in that order. -/
  handed_out_iff : ∀ s sym, (.intern s, .symbol sym) ∈ log ↔
    (internedBy calls).eraseDups[sym.index]? = some s
  /-- Equal symbols were handed out for equal strings, whenever that was. -/
  symbol_eq_iff : ∀ s r a b, (.intern s, .symbol a) ∈ log → (.intern r, .symbol b) ∈ log →
    (a = b ↔ s = r)
  get_eq_iff : ∀ s sym, t.perform (.get sym) = (.string (.ok s), t) ↔
    (.intern s, .symbol sym) ∈ log
  get_fails_iff : ∀ sym, t.perform (.get sym) = (.string (.error (.notFound sym.index)), t) ↔
    ∀ s, (.intern s, .symbol sym) ∉ log
  lookup_eq_iff : ∀ s sym, t.perform (.lookup s) = (.found (some sym), t) ↔
    (.intern s, .symbol sym) ∈ log
  lookup_fails_iff : ∀ s, t.perform (.lookup s) = (.found none, t) ↔ s ∉ internedBy calls
  /-- Every call that interned was a hit or a miss, and it was a miss for every distinct string. -/
  statistics_eq : ∃ hits, hits + (internedBy calls).eraseDups.length = (internedBy calls).length ∧
    t.perform .statistics =
      (.statistics ⟨(internedBy calls).eraseDups.length, hits,
        (internedBy calls).eraseDups.length⟩, t)

/-- Whatever calls an empty table gets, it stays faithful to the strings interned so far. -/
theorem run_faithful (calls : List Call) : Faithful calls (run calls).1 (run calls).2 := by
  have h := accounts_run calls
  generalize (run calls).1 = log at h
  generalize (run calls).2 = t at h
  have hinterned : ∀ s, s ∈ internedBy calls ↔ ∃ sym : Symbol, t.strings[sym.index]? = some s := by
    intro s
    rw [← List.mem_eraseDups, ← h.strings_eq, mem_strings_iff]
    constructor
    · rintro ⟨i, hi⟩
      exact ⟨⟨i⟩, (t.indices_iff s i).1 hi⟩
    · rintro ⟨sym, hsym⟩
      exact ⟨sym.index, (t.indices_iff s _).2 hsym⟩
  have hsize : t.strings.size = (internedBy calls).eraseDups.length := by
    rw [← h.strings_eq, Array.length_toList]
  refine ⟨h.answered, h.strings_eq, t.indices_iff, fun s sym => ?_, fun s r a b ha hb => ?_,
    fun s sym => ?_, fun sym => ?_, fun s sym => ?_, fun s => ?_, t.hits, ?_, ?_⟩
  · rw [h.symbol_iff, ← h.strings_eq, Array.getElem?_toList]
  · rw [h.symbol_iff] at ha hb
    constructor
    · rintro rfl
      exact Option.some.inj (ha.symm.trans hb)
    · rintro rfl
      exact symbol_unique ha hb
  · rw [h.symbol_iff, ← get_eq_ok_iff]
    simp [perform]
  · rw [perform, Prod.mk.injEq, Answer.string.injEq, get_eq_error_iff, and_iff_left rfl,
      Option.eq_none_iff_forall_ne_some]
    exact forall_congr' fun s => not_congr (h.symbol_iff s sym).symm
  · rw [h.symbol_iff, ← lookup?_eq_some_iff]
    simp [perform]
  · rw [perform, Prod.mk.injEq, Answer.found.injEq, and_iff_left rfl,
      Option.eq_none_iff_forall_ne_some, hinterned, not_exists]
    exact forall_congr' fun sym => not_congr lookup?_eq_some_iff
  · rw [← hsize, ← h.misses_eq, h.total_eq]
  · rw [perform, statistics, size_indices, hsize, h.misses_eq, hsize]

end SymbolTable

end Lexicon
