import Lexicon.Namespace
import Lexicon.Proofs.Symbol
import Mathlib.Data.List.Forall2

/-!
# What a namespace binds

Names that are bound in turn stand in the order in which they were first bound, each with the value
that it was bound to last.  By the strings that symbols stand for, a namespace is a list of names
with values, and looking a string up in it needs no symbol table (`get?_eq_lookup`).
-/

namespace Lexicon

section Entries

variable {κ α : Type} [DecidableEq κ]

theorem lookup_cons_of_ne {k k' : κ} (h : k ≠ k') (v : α) (entries : List (κ × α)) :
    ((k', v) :: entries).lookup k = entries.lookup k := by
  rw [List.lookup_cons, beq_false_of_ne h]

/-- In a list with distinct keys a key has the value of its only entry. -/
theorem lookup_eq_some_iff_mem {entries : List (κ × α)} {k : κ} {v : α}
    (h : (entries.map (·.1)).Nodup) : entries.lookup k = some v ↔ (k, v) ∈ entries := by
  induction entries with
  | nil => simp
  | cons entry entries ih =>
    obtain ⟨k', v'⟩ := entry
    rw [List.map_cons, List.nodup_cons] at h
    rw [List.mem_cons, Prod.mk.injEq]
    by_cases hk : k = k'
    · subst hk
      have hnot : (k, v) ∉ entries := fun hmem => h.1 (List.mem_map.2 ⟨(k, v), hmem, rfl⟩)
      simp [hnot, eq_comm]
    · rw [lookup_cons_of_ne hk, ih h.2]
      simp [hk]

end Entries

namespace Namespace

variable {α β : Type}

/-! ## Binding in turn -/

theorem lookup_bindIn (name : Symbol) (value : α) (bindings : List (Symbol × α))
    (other : Symbol) :
    (bindIn name value bindings).lookup other =
      if other = name then some value else bindings.lookup other := by
  induction bindings with
  | nil =>
    rw [bindIn]
    split_ifs with ho
    · rw [ho, List.lookup_cons_self]
    · rw [lookup_cons_of_ne ho]
  | cons binding bindings ih =>
    obtain ⟨n, v⟩ := binding
    rw [bindIn]
    by_cases ho : other = n
    · subst ho
      split_ifs with hn
      · rw [List.lookup_cons_self]
      · rw [List.lookup_cons_self, List.lookup_cons_self]
    · rw [lookup_cons_of_ne ho]
      split_ifs with hn ho' ho'
      · exact absurd (ho'.trans hn.symm) ho
      · rw [lookup_cons_of_ne ho]
      · rw [lookup_cons_of_ne ho, ih, if_pos ho']
      · rw [lookup_cons_of_ne ho, ih, if_neg ho']

theorem map_fst_bindIn (name : Symbol) (value : α) (bindings : List (Symbol × α)) :
    (bindIn name value bindings).map (·.1) =
      if name ∈ bindings.map (·.1) then bindings.map (·.1) else bindings.map (·.1) ++ [name] := by
  induction bindings with
  | nil => rfl
  | cons binding bindings ih =>
    obtain ⟨n, v⟩ := binding
    rw [bindIn]
    by_cases hn : n = name
    · rw [if_pos hn, ← hn, List.map_cons, List.map_cons, if_pos List.mem_cons_self]
    · have hmem : name ∈ n :: bindings.map (·.1) ↔ name ∈ bindings.map (·.1) :=
        List.mem_cons.trans (or_iff_right (Ne.symm hn))
      rw [if_neg hn, List.map_cons, ih, List.map_cons]
      simp only [hmem]
      split_ifs <;> rfl

theorem ofList_concat (pairs : List (Symbol × α)) (name : Symbol) (value : α) :
    ofList (pairs ++ [(name, value)]) = ((ofList pairs).bind name value).2 := by
  rw [ofList, List.foldl_append]
  rfl

theorem getSymbol?_bind (ns : Namespace α) (name : Symbol) (value : α) (other : Symbol) :
    (ns.bind name value).2.getSymbol? other =
      if other = name then some value else ns.getSymbol? other :=
  lookup_bindIn name value ns.bindings other

theorem names_bind (ns : Namespace α) (name : Symbol) (value : α) :
    (ns.bind name value).2.names = if name ∈ ns.names then ns.names else ns.names ++ [name] :=
  map_fst_bindIn name value ns.bindings

theorem names_ofList (pairs : List (Symbol × α)) :
    (ofList pairs).names = (pairs.map (·.1)).eraseDups := by
  induction pairs using List.reverseRecOn with
  | nil => rfl
  | append_singleton pairs pair ih =>
    rw [ofList_concat, names_bind, ih, List.map_append, List.map_singleton, eraseDups_concat]
    simp only [List.mem_eraseDups]

theorem nodup_names_ofList (pairs : List (Symbol × α)) : (ofList pairs).names.Nodup := by
  rw [names_ofList]
  exact nodup_eraseDups _

/-! ## Binding line by line -/

section Lines

variable {lines : List β} {binding? : β → Option (Symbol × α)}

/-- The last line of `lines ++ [line]` is the one behind all others. -/
theorem bind_getElem?_concat {line : β} {i : Nat} {entry : Symbol × α} :
    (lines ++ [line])[i]?.bind binding? = some entry ↔
      lines[i]?.bind binding? = some entry ∨ i = lines.length ∧ binding? line = some entry := by
  rcases Nat.lt_trichotomy i lines.length with hi | hi | hi
  · rw [List.getElem?_append_left hi]
    simp [Nat.ne_of_lt hi]
  · subst hi
    simp
  · rw [List.getElem?_eq_none (by simp; omega), List.getElem?_eq_none (Nat.le_of_lt hi)]
    simp [Nat.ne_of_gt hi]

theorem lt_length_of_bind_getElem? {i : Nat} {entry : Symbol × α}
    (h : lines[i]?.bind binding? = some entry) : i < lines.length := by
  obtain ⟨line, hline, -⟩ := Option.bind_eq_some_iff.1 h
  exact (List.getElem?_eq_some_iff.1 hline).1

theorem mem_names_ofList_iff {name : Symbol} :
    name ∈ (ofList (lines.filterMap binding?)).names ↔
      ∃ (i : Nat) (value : α), lines[i]?.bind binding? = some (name, value) := by
  rw [names_ofList, List.mem_eraseDups, List.mem_map]
  constructor
  · rintro ⟨⟨_, value⟩, hmem, rfl⟩
    obtain ⟨line, hline, hentry⟩ := List.mem_filterMap.1 hmem
    obtain ⟨i, hi⟩ := List.mem_iff_getElem?.1 hline
    exact ⟨i, value, Option.bind_eq_some_iff.2 ⟨line, hi, hentry⟩⟩
  · rintro ⟨i, value, h⟩
    obtain ⟨line, hi, hentry⟩ := Option.bind_eq_some_iff.1 h
    have hline : line ∈ lines := List.mem_iff_getElem?.2 ⟨i, hi⟩
    exact ⟨(name, value), List.mem_filterMap.2 ⟨line, hline, hentry⟩, rfl⟩

/-- A name has the value from its last line. -/
theorem getSymbol?_ofList_eq_some_iff {name : Symbol} {value : α} :
    (ofList (lines.filterMap binding?)).getSymbol? name = some value ↔
      ∃ i : Nat, lines[i]?.bind binding? = some (name, value) ∧
        ∀ (j : Nat) (v : α), lines[j]?.bind binding? = some (name, v) → j ≤ i := by
  induction lines using List.reverseRecOn with
  | nil => simp [ofList, getSymbol?]
  | append_singleton lines line ih =>
    rw [List.filterMap_append]
    simp only [bind_getElem?_concat]
    cases hline : binding? line with
    | none => simpa [List.filterMap_cons_none hline] using ih
    | some entry =>
      obtain ⟨n, v⟩ := entry
      rw [List.filterMap_cons_some hline, List.filterMap_nil, ofList_concat, getSymbol?_bind]
      by_cases hn : name = n
      · subst hn
        rw [if_pos rfl, Option.some.injEq]
        constructor
        · rintro rfl
          refine ⟨lines.length, .inr ⟨rfl, rfl⟩, ?_⟩
          rintro j v' (hj | ⟨rfl, -⟩)
          · exact Nat.le_of_lt (lt_length_of_bind_getElem? hj)
          · exact Nat.le_refl _
        · rintro ⟨i, hi | ⟨-, hi⟩, hlast⟩
          · have hle := hlast lines.length v (.inr ⟨rfl, rfl⟩)
            have hlt := lt_length_of_bind_getElem? hi
            omega
          · rw [Option.some.injEq, Prod.mk.injEq] at hi
            exact hi.2
      · have hne : ∀ v', some (n, v) ≠ some (name, v') := by
          intro v' heq
          rw [Option.some.injEq, Prod.mk.injEq] at heq
          exact hn heq.1.symm
        simp only [if_neg hn, ih, hne, and_false, or_false]

/-- Names stand in the order of their first lines. -/
theorem pairwise_names_ofList :
    (ofList (lines.filterMap binding?)).names.Pairwise fun a b =>
      ∃ (i : Nat) (v : α), lines[i]?.bind binding? = some (a, v) ∧
        ∀ (j : Nat) (v' : α), lines[j]?.bind binding? = some (b, v') → i < j := by
  induction lines using List.reverseRecOn with
  | nil => exact List.Pairwise.nil
  | append_singleton lines line ih =>
    rw [List.filterMap_append]
    simp only [bind_getElem?_concat]
    have hold : (ofList (lines.filterMap binding?)).names.Pairwise fun a b =>
        ∃ (i : Nat) (v : α), (lines[i]?.bind binding? = some (a, v) ∨
            i = lines.length ∧ binding? line = some (a, v)) ∧
          ∀ (j : Nat) (v' : α), lines[j]?.bind binding? = some (b, v') ∨
            j = lines.length ∧ binding? line = some (b, v') → i < j := by
      refine ih.imp fun {a b} ⟨i, v, hi, hfirst⟩ => ⟨i, v, .inl hi, ?_⟩
      rintro j v' (hj | ⟨rfl, -⟩)
      · exact hfirst j v' hj
      · exact lt_length_of_bind_getElem? hi
    cases hline : binding? line with
    | none => simpa [List.filterMap_cons_none hline, hline] using hold
    | some entry =>
      obtain ⟨n, value⟩ := entry
      rw [hline] at hold
      rw [List.filterMap_cons_some hline, List.filterMap_nil, ofList_concat, names_bind]
      split_ifs with hn
      · exact hold
      · refine List.pairwise_append.2 ⟨hold, List.pairwise_singleton _ _, fun a ha b hb => ?_⟩
        obtain rfl := List.mem_singleton.1 hb
        obtain ⟨i, v, hi⟩ := mem_names_ofList_iff.1 ha
        refine ⟨i, v, .inl hi, ?_⟩
        rintro j v' (hj | ⟨rfl, -⟩)
        · exact absurd (mem_names_ofList_iff.2 ⟨j, v', hj⟩) hn
        · exact lt_length_of_bind_getElem? hi

end Lines

/-! ## By name -/

/-- The bindings with the strings that their symbols stand for. -/
def named (symbols : SymbolTable) (ns : Namespace α) : List (String × α) :=
  ns.bindings.map fun p => (symbols.textOf p.1, p.2)

/-- Every bound symbol stands for a string of the table. -/
def KnownIn (symbols : SymbolTable) (ns : Namespace α) : Prop :=
  ∀ name ∈ ns.names, ∃ s, symbols.strings[name.index]? = some s

theorem map_fst_named (symbols : SymbolTable) (ns : Namespace α) :
    (ns.named symbols).map (·.1) = ns.names.map symbols.textOf := by
  rw [named, names, List.map_map, List.map_map]
  rfl

variable {symbols : SymbolTable} {ns : Namespace α}

/-- A binding of a symbol, said by the string that the symbol stands for. -/
def Spells (symbols : SymbolTable) (p : Symbol × α) (b : String × α) : Prop :=
  symbols.strings[p.1.index]? = some b.1 ∧ p.2 = b.2

/-- Looking up a string among symbols is looking it up among their strings. -/
theorem lookup?_bind_lookup {pairs : List (Symbol × α)} {binds : List (String × α)}
    (h : List.Forall₂ (Spells symbols) pairs binds) (s : String) :
    (symbols.lookup? s).bind (pairs.lookup ·) = binds.lookup s := by
  induction h with
  | nil => cases symbols.lookup? s <;> rfl
  | @cons p b pairs binds hp hrest ih =>
    obtain ⟨name, value⟩ := p
    obtain ⟨r, _⟩ := b
    obtain ⟨hr, rfl⟩ := hp
    by_cases hs : s = r
    · subst hs
      rw [SymbolTable.lookup?_eq_some_iff.2 hr, List.lookup_cons_self]
      exact List.lookup_cons_self
    · rw [lookup_cons_of_ne hs, ← ih]
      -- The symbol of `s` is another one than that of `r`.
      refine Option.bind_congr fun sym hsym => lookup_cons_of_ne ?_ _ _
      rintro rfl
      rw [SymbolTable.lookup?_eq_some_iff, hr] at hsym
      exact hs (Option.some.inj hsym).symm

theorem spells_named (h : ns.KnownIn symbols) :
    List.Forall₂ (Spells symbols) ns.bindings (ns.named symbols) := by
  rw [named, List.forall₂_map_right_iff, List.forall₂_same]
  intro p hp
  obtain ⟨s, hs⟩ := h p.1 (List.mem_map_of_mem hp)
  exact ⟨SymbolTable.textOf_eq hs ▸ hs, rfl⟩

/-- A string is looked up by comparing it with the bound names. -/
theorem get?_eq_lookup (h : ns.KnownIn symbols) (s : String) :
    ns.get? symbols s = (ns.named symbols).lookup s :=
  lookup?_bind_lookup (spells_named h) s

theorem nodup_map_textOf (h : ns.KnownIn symbols) (hnodup : ns.names.Nodup) :
    (ns.names.map symbols.textOf).Nodup :=
  hnodup.map_on fun a ha b hb => SymbolTable.eq_of_textOf_eq (h a ha) (h b hb)

end Namespace

/-! ## Two tables -/

/-- Symbols of two tables that stand for one string. -/
def SymbolTable.SameName (t t' : SymbolTable) (sym sym' : Symbol) : Prop :=
  ∃ s, t.strings[sym.index]? = some s ∧ t'.strings[sym'.index]? = some s

theorem SymbolTable.SameName.symm {t t' : SymbolTable} {sym sym' : Symbol}
    (h : t.SameName t' sym sym') : t'.SameName t sym' sym := by
  obtain ⟨s, hs, hs'⟩ := h
  exact ⟨s, hs', hs⟩

/-- Symbols are equal in one table where they are equal in the other. -/
theorem SymbolTable.SameName.eq_iff {t t' : SymbolTable} {a b a' b' : Symbol}
    (ha : t.SameName t' a a') (hb : t.SameName t' b b') : a = b ↔ a' = b' := by
  obtain ⟨s, hs, hs'⟩ := ha
  obtain ⟨r, hr, hr'⟩ := hb
  constructor
  · rintro rfl
    obtain rfl : s = r := Option.some.inj (hs.symm.trans hr)
    exact symbol_unique hs' hr'
  · rintro rfl
    obtain rfl : s = r := Option.some.inj (hs'.symm.trans hr')
    exact symbol_unique hs hr

namespace Namespace

variable {α : Type} {t t' : SymbolTable}

/-- Bindings of one value to symbols for one string. -/
def SameBinding (t t' : SymbolTable) (p p' : Symbol × α) : Prop :=
  t.SameName t' p.1 p'.1 ∧ p.2 = p'.2

/-- Namespaces that bind the same values to the same strings in the same order. -/
def Same (t t' : SymbolTable) (ns ns' : Namespace α) : Prop :=
  List.Forall₂ (SameBinding t t') ns.bindings ns'.bindings

theorem forall₂_bindIn {p p' : Symbol × α} {bindings bindings' : List (Symbol × α)}
    (hp : SameBinding t t' p p') (h : List.Forall₂ (SameBinding t t') bindings bindings') :
    List.Forall₂ (SameBinding t t') (bindIn p.1 p.2 bindings) (bindIn p'.1 p'.2 bindings') := by
  induction h with
  | nil => exact .cons hp .nil
  | @cons q q' rest rest' hq hrest ih =>
    have heq : q.1 = p.1 ↔ q'.1 = p'.1 := hq.1.eq_iff hp.1
    rw [bindIn, bindIn]
    by_cases hname : q.1 = p.1
    · rw [if_pos hname, if_pos (heq.1 hname)]
      exact .cons ⟨hq.1, hp.2⟩ hrest
    · rw [if_neg hname, if_neg (mt heq.2 hname)]
      exact .cons hq ih

theorem same_ofList {pairs pairs' : List (Symbol × α)}
    (h : List.Forall₂ (SameBinding t t') pairs pairs') :
    Same t t' (ofList pairs) (ofList pairs') := by
  have hempty : Same t t' ({} : Namespace α) {} := List.Forall₂.nil
  refine List.rel_foldl ?_ hempty h
  intro ns ns' hns p p' hp
  exact forall₂_bindIn hp hns

theorem Same.named_eq {ns ns' : Namespace α} (h : Same t t' ns ns') :
    ns.named t = ns'.named t' := by
  unfold Same at h
  unfold named
  generalize ns.bindings = bindings at h
  generalize ns'.bindings = bindings' at h
  induction h with
  | nil => rfl
  | cons hp hrest ih =>
    obtain ⟨⟨s, hs, hs'⟩, hvalue⟩ := hp
    rw [List.map_cons, List.map_cons, ih, SymbolTable.textOf_eq hs, SymbolTable.textOf_eq hs',
      hvalue]

theorem Same.knownIn {ns ns' : Namespace α} (h : Same t t' ns ns') :
    ns.KnownIn t ∧ ns'.KnownIn t' := by
  unfold Same at h
  unfold KnownIn names
  generalize ns.bindings = bindings at h
  generalize ns'.bindings = bindings' at h
  induction h with
  | nil => simp
  | cons hp hrest ih =>
    obtain ⟨⟨s, hs, hs'⟩, -⟩ := hp
    rw [List.map_cons, List.map_cons, List.forall_mem_cons, List.forall_mem_cons]
    exact ⟨⟨⟨s, hs⟩, ih.1⟩, ⟨s, hs'⟩, ih.2⟩

/-- Namespaces that answer every query alike, symbols being read by the strings that they stand
for. -/
structure SameAnswers (t t' : SymbolTable) (ns ns' : Namespace α) : Prop where
  named_eq : ns.named t = ns'.named t'
  names_eq : ns.names.map t.textOf = ns'.names.map t'.textOf
  get?_eq : ∀ name, ns.get? t name = ns'.get? t' name
  contains_eq : ∀ name, ns.contains t name = ns'.contains t' name
  resolve?_eq : ∀ spelling, ns.resolve? t spelling = ns'.resolve? t' spelling

theorem Same.answers {ns ns' : Namespace α} (h : Same t t' ns ns') : SameAnswers t t' ns ns' := by
  have hnamed := h.named_eq
  obtain ⟨hknown, hknown'⟩ := h.knownIn
  have hget : ∀ name, ns.get? t name = ns'.get? t' name := by
    intro name
    rw [get?_eq_lookup hknown, get?_eq_lookup hknown', hnamed]
  refine ⟨hnamed, ?_, hget, fun name => ?_, fun spelling => hget _⟩
  · rw [← map_fst_named, ← map_fst_named, hnamed]
  · rw [contains, contains, hget]

end Namespace

end Lexicon
