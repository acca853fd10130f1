import Lexicon.Proofs.Namespace
import Lexicon.Proofs.Unicode.Normalization
import Mathlib.Data.List.Perm.Subperm
import Mathlib.Logic.Function.Basic

/-!
# Namespaces in use

Namespaces over one symbol table are built, bound and read in any order, while other strings are
interned (`Session.performAll`).  What was bound in a namespace is told by strings (`bindsOf`), and
it came about by binding their symbols in turn, whatever else was called (`boundBy_performAll`).
So every query is answered by the list of the bound names, each in the place of its first binding
and with the value of its last (`lastBound`, `Session.isOrderedMap_performAll`).
-/

namespace Lexicon

open Unicode

/-! ## The last value in the first place -/

section Entries

variable {κ α : Type} [DecidableEq κ]

/-- The keys of bindings made in turn, each once: where it was bound first, with what it was bound
to last. -/
def lastBound (binds : List (κ × α)) : List (κ × α) :=
  (binds.map (·.1)).eraseDups.filterMap fun k => (binds.reverse.lookup k).map (k, ·)

/-- A list with distinct keys is made up of what its keys look up. -/
theorem filterMap_lookup_keys {entries : List (κ × α)} (h : (entries.map (·.1)).Nodup) :
    (entries.map (·.1)).filterMap (fun k => (entries.lookup k).map (k, ·)) = entries := by
  induction entries with
  | nil => rfl
  | cons entry entries ih =>
    obtain ⟨k, v⟩ := entry
    rw [List.map_cons, List.nodup_cons] at h
    have hother : ∀ k' ∈ entries.map (·.1), (((k, v) :: entries).lookup k').map (k', ·) =
        (entries.lookup k').map (k', ·) := by
      intro k' hk'
      rw [lookup_cons_of_ne (ne_of_mem_of_not_mem hk' h.1)]
    rw [List.map_cons, List.filterMap_cons, List.filterMap_congr hother, ih h.2,
      List.lookup_cons_self, Option.map_some]

theorem eraseDups_map_of_injOn {f : α → κ} [DecidableEq α] {l : List α}
    (h : ∀ a ∈ l, ∀ b ∈ l, f a = f b → a = b) : (l.map f).eraseDups = l.eraseDups.map f := by
  induction l using List.reverseRecOn with
  | nil => rfl
  | append_singleton l a ih =>
    have hmem : f a ∈ l.map f ↔ a ∈ l := by
      rw [List.mem_map]
      constructor
      · rintro ⟨b, hb, heq⟩
        obtain rfl : b = a := h b (by simp [hb]) a (by simp) heq
        exact hb
      · exact fun ha => ⟨a, ha, rfl⟩
    have hold := ih fun b hb c hc => h b (by simp [hb]) c (by simp [hc])
    rw [List.map_append, List.map_singleton, eraseDups_concat, eraseDups_concat, hold]
    simp only [hmem]
    split_ifs
    · rfl
    · rw [List.map_append, List.map_singleton]

/-- Lists with distinct keys have the same entries where every key has the same value in both. -/
theorem perm_iff_lookup_eq {entries entries' : List (κ × α)} (h : (entries.map (·.1)).Nodup)
    (h' : (entries'.map (·.1)).Nodup) :
    entries.Perm entries' ↔ ∀ k, entries.lookup k = entries'.lookup k := by
  rw [List.perm_ext_iff_of_nodup h.of_map h'.of_map]
  constructor
  · intro hmem k
    apply Option.ext
    intro v
    rw [lookup_eq_some_iff_mem h, lookup_eq_some_iff_mem h', hmem]
  · rintro hlookup ⟨k, v⟩
    rw [← lookup_eq_some_iff_mem h, ← lookup_eq_some_iff_mem h', hlookup]

end Entries

namespace Namespace

variable {α : Type}

/-- Equal namespaces have equal values for every symbol, in whatever order these are bound. -/
theorem sameAs_iff [DecidableEq α] {ns other : Namespace α} (h : ns.names.Nodup)
    (h' : other.names.Nodup) :
    ns.sameAs other = true ↔ ∀ name, ns.getSymbol? name = other.getSymbol? name := by
  rw [sameAs, Bool.and_eq_true, beq_iff_eq, List.all_eq_true]
  show _ ↔ ∀ name, ns.bindings.lookup name = other.bindings.lookup name
  rw [← perm_iff_lookup_eq h h']
  constructor
  · rintro ⟨hsize, hall⟩
    have hsub : ns.bindings ⊆ other.bindings := by
      rintro ⟨name, value⟩ hmem
      exact (lookup_eq_some_iff_mem h').1 (beq_iff_eq.1 (hall _ hmem))
    exact (h.of_map.subperm hsub).perm_of_length_le (Nat.le_of_eq hsize.symm)
  · intro hperm
    refine ⟨hperm.length_eq, ?_⟩
    rintro ⟨name, value⟩ hmem
    exact beq_iff_eq.2 ((lookup_eq_some_iff_mem h').2 (hperm.subset hmem))

theorem getSymbol?_ofList (pairs : List (Symbol × α)) (name : Symbol) :
    (ofList pairs).getSymbol? name = pairs.reverse.lookup name := by
  induction pairs using List.reverseRecOn with
  | nil => rfl
  | append_singleton pairs pair ih =>
    obtain ⟨n, v⟩ := pair
    rw [ofList_concat, getSymbol?_bind, ih, List.reverse_append, List.reverse_singleton,
      List.singleton_append]
    split_ifs with hn
    · rw [hn, List.lookup_cons_self]
    · rw [lookup_cons_of_ne hn]

/-! ## Bound by strings -/

section Strings

/-- The namespace came about by binding, in turn, the symbols of the strings in `binds`. -/
def BoundBy (t : SymbolTable) (ns : Namespace α) (binds : List (String × α)) : Prop :=
  ∃ pairs, ns = ofList pairs ∧ List.Forall₂ (Spells t) pairs binds

variable {t t' : SymbolTable} {ns other : Namespace α} {binds others : List (String × α)}

theorem Spells.mono {p : Symbol × α} {b : String × α} (h : Spells t p b) (ht : t'.Extends t) :
    Spells t' p b := ⟨ht _ _ h.1, h.2⟩

theorem known_of_spells {pairs : List (Symbol × α)} (h : List.Forall₂ (Spells t) pairs binds) :
    ∀ name ∈ pairs.map (·.1), ∃ s, t.strings[name.index]? = some s := by
  induction h with
  | nil => exact List.forall_mem_nil _
  | cons hp hrest ih =>
    rw [List.map_cons, List.forall_mem_cons]
    exact ⟨⟨_, hp.1⟩, ih⟩

theorem map_fst_of_spells {pairs : List (Symbol × α)} (h : List.Forall₂ (Spells t) pairs binds) :
    binds.map (·.1) = (pairs.map (·.1)).map t.textOf := by
  induction h with
  | nil => rfl
  | cons hp hrest ih =>
    rw [List.map_cons, List.map_cons, List.map_cons, SymbolTable.textOf_eq hp.1, ih]

theorem getSymbol?_eq_get? {name : Symbol} {s : String} (h : t.strings[name.index]? = some s) :
    ns.getSymbol? name = ns.get? t s := by
  rw [get?, SymbolTable.lookup?_eq_some_iff.2 h, Option.bind_some]

namespace BoundBy

theorem nil : BoundBy t ({} : Namespace α) [] := ⟨[], rfl, .nil⟩

theorem mono (h : BoundBy t ns binds) (ht : t'.Extends t) : BoundBy t' ns binds := by
  obtain ⟨pairs, rfl, hpairs⟩ := h
  exact ⟨pairs, rfl, hpairs.imp fun _ _ hp => hp.mono ht⟩

theorem bind (h : BoundBy t ns binds) {name : Symbol} {s : String}
    (hs : t.strings[name.index]? = some s) (value : α) :
    BoundBy t (ns.bind name value).2 (binds ++ [(s, value)]) := by
  obtain ⟨pairs, rfl, hpairs⟩ := h
  refine ⟨pairs ++ [(name, value)], (ofList_concat pairs name value).symm, ?_⟩
  exact List.rel_append hpairs (.cons ⟨hs, rfl⟩ .nil)

theorem nodup_names (h : BoundBy t ns binds) : ns.names.Nodup := by
  obtain ⟨pairs, rfl, -⟩ := h
  exact nodup_names_ofList pairs

theorem knownIn (h : BoundBy t ns binds) : ns.KnownIn t := by
  obtain ⟨pairs, rfl, hpairs⟩ := h
  intro name hname
  rw [names_ofList, List.mem_eraseDups] at hname
  exact known_of_spells hpairs name hname

/-- A symbol that stands for no string is not bound. -/
theorem getSymbol?_eq_none (h : BoundBy t ns binds) {name : Symbol}
    (hn : t.strings[name.index]? = none) : ns.getSymbol? name = none := by
  by_contra hsome
  obtain ⟨value, hvalue⟩ := Option.ne_none_iff_exists'.1 hsome
  have hmem : (name, value) ∈ ns.bindings := (lookup_eq_some_iff_mem h.nodup_names).1 hvalue
  obtain ⟨s, hs⟩ := h.knownIn name (List.mem_map_of_mem hmem)
  rw [hn] at hs
  cases hs

/-- The strings were bound first in the order in which their symbols were. -/
theorem map_fst_named (h : BoundBy t ns binds) :
    (ns.named t).map (·.1) = (binds.map (·.1)).eraseDups := by
  obtain ⟨pairs, rfl, hpairs⟩ := h
  have hknown := known_of_spells hpairs
  have hinj : ∀ a ∈ pairs.map (·.1), ∀ b ∈ pairs.map (·.1), t.textOf a = t.textOf b → a = b :=
    fun a ha b hb => SymbolTable.eq_of_textOf_eq (hknown a ha) (hknown b hb)
  rw [Namespace.map_fst_named, names_ofList, map_fst_of_spells hpairs,
    eraseDups_map_of_injOn hinj]

theorem get?_eq (h : BoundBy t ns binds) (s : String) :
    ns.get? t s = binds.reverse.lookup s := by
  obtain ⟨pairs, rfl, hpairs⟩ := h
  rw [← lookup?_bind_lookup (List.rel_reverse hpairs)]
  exact Option.bind_congr fun sym _ => getSymbol?_ofList pairs sym

theorem named_eq (h : BoundBy t ns binds) : ns.named t = lastBound binds := by
  have hnodup : ((ns.named t).map (·.1)).Nodup := by
    rw [Namespace.map_fst_named]
    exact nodup_map_textOf h.knownIn h.nodup_names
  rw [← filterMap_lookup_keys hnodup, h.map_fst_named, lastBound]
  apply List.filterMap_congr
  intro s _
  rw [← get?_eq_lookup h.knownIn, h.get?_eq]

theorem get?_eq_lookup (h : BoundBy t ns binds) (s : String) :
    ns.get? t s = (lastBound binds).lookup s := by
  rw [Namespace.get?_eq_lookup h.knownIn, h.named_eq]

/-- By its symbol a string has the same value, also where it is interned for that only. -/
theorem getSymbol?_intern (h : BoundBy t ns binds) (s : String) :
    ns.getSymbol? (t.intern s).1 = (lastBound binds).lookup s := by
  rw [getSymbol?_eq_get? (t.getElem?_strings_intern s),
    (h.mono (t.extends_intern s)).get?_eq_lookup]

theorem map_get_bindings (h : BoundBy t ns binds) :
    ns.bindings.map (fun p => (t.get p.1, p.2)) =
      (lastBound binds).map fun b => (.ok b.1, b.2) := by
  rw [← h.named_eq, named, List.map_map]
  apply List.map_congr_left
  intro p hp
  obtain ⟨s, hs⟩ := h.knownIn p.1 (List.mem_map_of_mem hp)
  show (t.get p.1, p.2) = (.ok (t.textOf p.1), p.2)
  rw [SymbolTable.textOf_eq hs, SymbolTable.get_eq_ok_iff.2 hs]

/-- Namespaces over one table are equal where every string has the same value in both. -/
theorem sameAs_iff [DecidableEq α] (h : BoundBy t ns binds) (h' : BoundBy t other others) :
    ns.sameAs other = true ↔ ∀ s, ns.get? t s = other.get? t s := by
  rw [Namespace.sameAs_iff h.nodup_names h'.nodup_names]
  constructor
  · intro hsymbol s
    exact Option.bind_congr fun name _ => hsymbol name
  · intro hget name
    cases hs : t.strings[name.index]? with
    | some s => rw [getSymbol?_eq_get? hs, getSymbol?_eq_get? hs, hget]
    | none => rw [h.getSymbol?_eq_none hs, h'.getSymbol?_eq_none hs]

end BoundBy

end Strings

/-! ## Sessions -/

/-- A symbol table and namespaces over it, told apart by numbers. -/
structure Session (α : Type) where
  symbols : SymbolTable
  spaces : Nat → Namespace α

/-- What is called in a session.  Names are given by their strings, which are interned where a
symbol is called for; a string that was interned before has its symbol from then. -/
inductive Call (α : Type) where
  | intern (s : String)
  | ofList (n : Nat) (pairs : List (String × α))
  | bind (n : Nat) (s : String) (value : α)
  | get (n : Nat) (s : String)
  | getSymbol (n : Nat) (s : String)
  | contains (n : Nat) (s : String)
  | resolve (n : Nat) (spelling : String)
  | names (n : Nat)
  | iter (n : Nat)
  | size (n : Nat)
  | same (n m : Nat)

inductive Answer (α : Type) where
  | done
  | value (v : Option α)
  | flag (b : Bool)
  | names (names : List Symbol)
  | bindings (bindings : List (Symbol × α))
  | count (n : Nat)

/-- Interns the names of pairs in turn. -/
def internPairs (t : SymbolTable) : List (String × α) → List (Symbol × α) × SymbolTable
  | [] => ([], t)
  | (s, value) :: pairs =>
    (((t.intern s).1, value) :: (internPairs (t.intern s).2 pairs).1,
      (internPairs (t.intern s).2 pairs).2)

namespace Session

/-- Nothing is bound at first, whatever the table holds. -/
def start (symbols : SymbolTable) : Session α := ⟨symbols, fun _ => {}⟩

def put (x : Session α) (symbols : SymbolTable) (n : Nat) (ns : Namespace α) : Session α :=
  ⟨symbols, Function.update x.spaces n ns⟩

/-- Answers a call.  Only interning changes the table, and only building and binding change a
namespace. -/
def perform [DecidableEq α] (x : Session α) : Call α → Answer α × Session α
  | .intern s => (.done, { x with symbols := (x.symbols.intern s).2 })
  | .ofList n pairs =>
    (.done,
      x.put (internPairs x.symbols pairs).2 n (Namespace.ofList (internPairs x.symbols pairs).1))
  | .bind n s value =>
    (.value ((x.spaces n).bind (x.symbols.intern s).1 value).1,
      x.put (x.symbols.intern s).2 n ((x.spaces n).bind (x.symbols.intern s).1 value).2)
  | .get n s => (.value ((x.spaces n).get? x.symbols s), x)
  | .getSymbol n s =>
    (.value ((x.spaces n).getSymbol? (x.symbols.intern s).1),
      { x with symbols := (x.symbols.intern s).2 })
  | .contains n s => (.flag ((x.spaces n).contains x.symbols s), x)
  | .resolve n spelling => (.value ((x.spaces n).resolve? x.symbols spelling), x)
  | .names n => (.names (x.spaces n).names, x)
  | .iter n => (.bindings (x.spaces n).bindings, x)
  | .size n => (.count (x.spaces n).size, x)
  | .same n m => (.flag ((x.spaces n).sameAs (x.spaces m)), x)

def performAll [DecidableEq α] (x : Session α) (calls : List (Call α)) : Session α :=
  calls.foldl (fun x call => (x.perform call).2) x

end Session

/-- What was bound in namespace `n`, after a call. -/
def Call.bindsIn (n : Nat) (binds : List (String × α)) : Call α → List (String × α)
  | .ofList m pairs => if n = m then pairs else binds
  | .bind m s value => if n = m then binds ++ [(s, value)] else binds
  | _ => binds

/-- What calls bound in namespace `n`, from its last building on. -/
def bindsOf (n : Nat) (calls : List (Call α)) : List (String × α) :=
  calls.foldl (Call.bindsIn n) []

/-! ## Every call keeps the names -/

theorem spells_internPairs (t : SymbolTable) (pairs : List (String × α)) :
    (internPairs t pairs).2.Extends t ∧
      List.Forall₂ (Spells (internPairs t pairs).2) (internPairs t pairs).1 pairs := by
  induction pairs generalizing t with
  | nil => exact ⟨t.extends_refl, .nil⟩
  | cons pair pairs ih =>
    obtain ⟨s, value⟩ := pair
    obtain ⟨hextends, hspells⟩ := ih (t.intern s).2
    refine ⟨hextends.trans (t.extends_intern s), .cons ⟨?_, rfl⟩ hspells⟩
    exact hextends _ _ (t.getElem?_strings_intern s)

theorem Session.spaces_put (x : Session α) (symbols : SymbolTable) (m : Nat) (ns : Namespace α)
    (n : Nat) : (x.put symbols m ns).spaces n = if n = m then ns else x.spaces n :=
  Function.update_apply x.spaces m ns n

section Runs

variable [DecidableEq α] {x : Session α} {n : Nat} {binds : List (String × α)}

theorem boundBy_perform (h : BoundBy x.symbols (x.spaces n) binds) (call : Call α) :
    BoundBy (x.perform call).2.symbols ((x.perform call).2.spaces n) (call.bindsIn n binds) := by
  cases call with
  | intern s => exact h.mono (x.symbols.extends_intern s)
  | getSymbol m s => exact h.mono (x.symbols.extends_intern s)
  | ofList m pairs =>
    obtain ⟨hextends, hspells⟩ := spells_internPairs x.symbols pairs
    rw [Session.perform, Session.spaces_put, Call.bindsIn]
    split_ifs
    · exact ⟨_, rfl, hspells⟩
    · exact h.mono hextends
  | bind m s value =>
    have h' := h.mono (x.symbols.extends_intern s)
    rw [Session.perform, Session.spaces_put, Call.bindsIn]
    split_ifs with hm
    · subst hm
      exact h'.bind (x.symbols.getElem?_strings_intern s) value
    · exact h'
  | get | contains | resolve | names | iter | size | same => exact h

theorem boundBy_performAll (h : BoundBy x.symbols (x.spaces n) binds) (calls : List (Call α)) :
    BoundBy (x.performAll calls).symbols ((x.performAll calls).spaces n)
      (calls.foldl (Call.bindsIn n) binds) := by
  induction calls generalizing x binds with
  | nil => exact h
  | cons call calls ih => exact ih (boundBy_perform h call)

/-- Binding pairs one by one, each after its name was interned, is building from all of them. -/
theorem Session.performAll_bind (x : Session α) (t : SymbolTable) (n : Nat) (ns : Namespace α)
    (pairs : List (String × α)) :
    (x.put t n ns).performAll (pairs.map fun b => .bind n b.1 b.2) =
      x.put (internPairs t pairs).2 n
        ((internPairs t pairs).1.foldl (fun ns p => (ns.bind p.1 p.2).2) ns) := by
  induction pairs generalizing t ns with
  | nil => rfl
  | cons pair pairs ih =>
    obtain ⟨s, value⟩ := pair
    have hbind : ((x.put t n ns).perform (.bind n s value)).2 =
        x.put (t.intern s).2 n (ns.bind (t.intern s).1 value).2 := by
      rw [perform, spaces_put, if_pos rfl]
      simp only [put, Function.update_idem]
    rw [internPairs, List.foldl_cons, ← ih, ← hbind]
    rfl

/-- How a session answers if its namespace `n` is the ordered map with these entries. -/
structure Session.IsOrderedMap (x : Session α) (n : Nat) (entries : List (String × α)) :
    Prop where
  iter_eq : ∃ bindings, x.perform (.iter n) = (.bindings bindings, x) ∧
    bindings.map (fun p => (x.symbols.get p.1, p.2)) = entries.map fun b => (.ok b.1, b.2)
  names_eq : ∃ names, x.perform (.names n) = (.names names, x) ∧
    names.map x.symbols.get = entries.map fun b => .ok b.1
  size_eq : x.perform (.size n) = (.count entries.length, x)
  get_eq : ∀ s, x.perform (.get n s) = (.value (entries.lookup s), x)
  /-- By its symbol a string has the same value, also where it was not interned before. -/
  getSymbol_eq : ∀ s, (x.perform (.getSymbol n s)).1 = .value (entries.lookup s)
  contains_eq : ∀ s, x.perform (.contains n s) = (.flag (entries.lookup s).isSome, x)
  resolve_eq : ∀ s,
    x.perform (.resolve n s) = x.perform (.get n (String.ofList (nfkc s.toList)))
  /-- Binding answers the value that it replaces. -/
  bind_eq : ∀ s value, (x.perform (.bind n s value)).1 = .value (entries.lookup s)
  /-- Building is binding in turn, from an empty namespace on. -/
  ofList_eq : ∀ pairs, (x.perform (.ofList n pairs)).2 =
    x.performAll (.ofList n [] :: pairs.map fun b => .bind n b.1 b.2)
  same_iff : ∀ m, ∃ same, x.perform (.same n m) = (.flag same, x) ∧
    (same = true ↔ ∀ s, (x.perform (.get n s)).1 = (x.perform (.get m s)).1)

/-- Whatever was called, with whatever strings interned before, every namespace is the ordered map
of what was bound in it: each name where it was bound first, with what it was bound to last. -/
theorem Session.isOrderedMap_performAll (symbols : SymbolTable) (calls : List (Call α)) (n : Nat) :
    ((start symbols).performAll calls).IsOrderedMap n (lastBound (bindsOf n calls)) := by
  have hbound : ∀ m, BoundBy ((start symbols).performAll calls).symbols
      (((start symbols).performAll calls).spaces m) (bindsOf m calls) := fun m =>
    boundBy_performAll .nil calls
  generalize (start symbols).performAll calls = x at hbound
  have h := hbound n
  have hbindings := h.map_get_bindings
  refine ⟨⟨_, rfl, hbindings⟩, ⟨_, rfl, ?_⟩, ?_, fun s => ?_, fun s => ?_, fun s => ?_,
    fun s => ?_, fun s value => ?_, fun pairs => ?_, fun m => ⟨_, rfl, ?_⟩⟩
  · have hnames := congrArg (List.map Prod.fst) hbindings
    rw [List.map_map, List.map_map] at hnames
    rw [names, List.map_map]
    exact hnames
  · rw [perform, size, ← h.named_eq, named, List.length_map]
  · rw [perform, h.get?_eq_lookup]
  · rw [perform, h.getSymbol?_intern]
  · rw [perform, contains, h.get?_eq_lookup]
  · rw [perform, perform, resolve?, normalize_eq_nfkc]
  · rw [perform, Namespace.bind, h.getSymbol?_intern]
  · exact (x.performAll_bind x.symbols n {} pairs).symm
  · simp only [perform, Answer.value.injEq]
    exact h.sameAs_iff (hbound m)

end Runs

end Namespace

end Lexicon
