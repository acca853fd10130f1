import Lexicon.Assignment
import Lexicon.Proofs.Lexer.Run
import Lexicon.Proofs.Namespace
import Lexicon.Proofs.Unicode.Normalization

/-!
# What assignments bind

The lines of a token sequence are told by where its tokens that end lines stand (`LineAt`).  A line
`name = number` assigns the number to the normal form of the identifier that is spelled in it
(`Assigns`), and the assignments of a file bind just these (`BindsAssigned`).
-/

namespace Lexicon

open Source Text Unicode

/-! ## Lines of tokens -/

/-- The line of a token sequence behind `i` tokens that end lines: all tokens up to the next of
these. -/
structure LineAt (tokens : List Token) (i : Nat) (line : List Token) : Prop where
  inside : ∀ t ∈ line, t.endsLine = false
  around : ∃ before after, tokens = before ++ line ++ after ∧ before.countP Token.endsLine = i ∧
    (∀ t ∈ before.getLast?, t.endsLine) ∧ ∀ t ∈ after.head?, t.endsLine

theorem tokenLines_of_endsLine {t : Token} (h : t.endsLine) (tokens : List Token) :
    tokenLines (t :: tokens) = [] :: tokenLines tokens := by
  rw [tokenLines, if_pos h]

/-- A token that ends no line comes first in the first line. -/
theorem tokenLines_of_not_endsLine {t : Token} (h : t.endsLine = false) (tokens : List Token) :
    ∃ line lines, tokenLines tokens = line :: lines ∧
      tokenLines (t :: tokens) = (t :: line) :: lines := by
  induction tokens generalizing t with
  | nil => exact ⟨[], [], rfl, by rw [tokenLines, if_neg (by simp [h])]; rfl⟩
  | cons u tokens ih =>
    obtain ⟨line, lines, hlines⟩ : ∃ line lines, tokenLines (u :: tokens) = line :: lines := by
      cases hu : u.endsLine with
      | true => exact ⟨_, _, tokenLines_of_endsLine hu tokens⟩
      | false =>
        obtain ⟨line, lines, -, hlines⟩ := ih hu
        exact ⟨_, _, hlines⟩
    refine ⟨line, lines, hlines, ?_⟩
    rw [tokenLines, if_neg (by simp [h]), hlines]

theorem length_tokenLines (tokens : List Token) :
    (tokenLines tokens).length = tokens.countP Token.endsLine + 1 := by
  induction tokens with
  | nil => rfl
  | cons t tokens ih =>
    cases ht : t.endsLine with
    | true => rw [tokenLines_of_endsLine ht, List.length_cons, ih, List.countP_cons_of_pos ht]
    | false =>
      obtain ⟨line, lines, htokens, hlines⟩ := tokenLines_of_not_endsLine ht tokens
      rw [htokens, List.length_cons] at ih
      rw [hlines, List.length_cons, ih, List.countP_cons_of_neg (by simp [ht])]

/-- A token that ends a line separates the lines before it from those behind it. -/
theorem tokenLines_append {t : Token} (h : t.endsLine) (before after : List Token) :
    tokenLines (before ++ t :: after) = tokenLines before ++ tokenLines after := by
  induction before with
  | nil => exact tokenLines_of_endsLine h after
  | cons u before ih =>
    rw [List.cons_append]
    cases hu : u.endsLine with
    | true => rw [tokenLines_of_endsLine hu, tokenLines_of_endsLine hu, ih, List.cons_append]
    | false =>
      obtain ⟨line, lines, hbefore, hlines⟩ := tokenLines_of_not_endsLine hu before
      obtain ⟨line', lines', hall, hlines'⟩ := tokenLines_of_not_endsLine hu (before ++ t :: after)
      rw [ih, hbefore, List.cons_append, List.cons.injEq] at hall
      rw [hlines', hlines, ← hall.1, ← hall.2, List.cons_append]

theorem tokenLines_eq_singleton {line : List Token} (h : ∀ t ∈ line, t.endsLine = false) :
    tokenLines line = [line] := by
  induction line with
  | nil => rfl
  | cons t line ih =>
    rw [List.forall_mem_cons] at h
    obtain ⟨first, lines, hline, hlines⟩ := tokenLines_of_not_endsLine h.1 line
    rw [ih h.2, List.cons.injEq] at hline
    rw [hlines, ← hline.1, ← hline.2]

theorem LineAt.getElem?_tokenLines {tokens line : List Token} {i : Nat} (h : LineAt tokens i line) :
    (tokenLines tokens)[i]? = some line := by
  obtain ⟨hline, before, after, rfl, rfl, hbefore, hafter⟩ := h
  have hfirst : (tokenLines (line ++ after))[0]? = some line := by
    cases after with
    | nil => rw [List.append_nil, tokenLines_eq_singleton hline]; rfl
    | cons t after =>
      rw [tokenLines_append (hafter t rfl), tokenLines_eq_singleton hline]
      rfl
  rw [List.append_assoc]
  induction before using List.reverseRecOn with
  | nil => exact hfirst
  | append_singleton front t _ =>
    have ht : t.endsLine := hbefore t (by rw [List.getLast?_append]; rfl)
    rw [List.append_assoc, List.singleton_append, tokenLines_append ht, List.countP_append,
      List.countP_singleton, if_pos ht, ← length_tokenLines,
      List.getElem?_append_right (Nat.le_refl _), Nat.sub_self]
    exact hfirst

theorem lineAt_of_getElem?_tokenLines {tokens line : List Token} {i : Nat}
    (h : (tokenLines tokens)[i]? = some line) : LineAt tokens i line := by
  induction tokens generalizing i line with
  | nil =>
    cases i with
    | zero =>
      obtain rfl : [] = line := Option.some.inj h
      exact ⟨by simp, [], [], rfl, rfl, by simp, by simp⟩
    | succ i => cases h
  | cons t tokens ih =>
    cases ht : t.endsLine with
    | true =>
      rw [tokenLines_of_endsLine ht] at h
      cases i with
      | zero =>
        obtain rfl : [] = line := Option.some.inj h
        exact ⟨by simp, [], t :: tokens, rfl, rfl, by simp, by simpa using ht⟩
      | succ i =>
        obtain ⟨hline, before, after, rfl, rfl, hbefore, hafter⟩ := ih h
        refine ⟨hline, t :: before, after, rfl, List.countP_cons_of_pos ht, ?_, hafter⟩
        rw [List.getLast?_cons]
        cases hlast : before.getLast? with
        | none => simpa using ht
        | some u => simpa [hlast] using hbefore
    | false =>
      obtain ⟨first, lines, htokens, hlines⟩ := tokenLines_of_not_endsLine ht tokens
      rw [hlines] at h
      cases i with
      | zero =>
        obtain rfl : t :: first = line := Option.some.inj h
        obtain ⟨hline, before, after, rfl, hcount, hbefore, hafter⟩ :=
          @ih first 0 (by rw [htokens]; rfl)
        obtain rfl : before = [] := by
          by_contra hne
          have hlast := hbefore _ (List.getLast?_eq_some_getLast hne)
          exact List.countP_eq_zero.1 hcount _ (List.getLast_mem hne) hlast
        exact ⟨List.forall_mem_cons.2 ⟨ht, hline⟩, [], after, rfl, rfl, by simp, hafter⟩
      | succ i =>
        obtain ⟨hline, before, after, rfl, hcount, hbefore, hafter⟩ :=
          @ih line (i + 1) (by rw [htokens]; exact h)
        refine ⟨hline, t :: before, after, rfl, ?_, ?_, hafter⟩
        · rw [List.countP_cons_of_neg (by simp [ht]), hcount]
        · cases before with
          | nil => cases hcount
          | cons u before => rwa [List.getLast?_cons_cons]

theorem lineAt_iff {tokens line : List Token} {i : Nat} :
    LineAt tokens i line ↔ (tokenLines tokens)[i]? = some line :=
  ⟨LineAt.getElem?_tokenLines, lineAt_of_getElem?_tokenLines⟩

theorem LineAt.subset {tokens line : List Token} {i : Nat} (h : LineAt tokens i line) :
    line ⊆ tokens := by
  obtain ⟨-, before, after, rfl, -⟩ := h
  exact fun t ht => List.mem_append_left after (List.mem_append_right before ht)

/-! ## Assignments -/

/-- The normal form of a spelling. -/
def normalFormOf (spelling : String) : String := String.ofList (nfkc spelling.toList)

/-- The `i`-th line is `identifier = value`, and the identifier is spelled in the file with `name`
for a normal form. -/
def Assigns (file : SourceFile) (tokens : List Token) (i : Nat) (name : String) (value : UInt64) :
    Prop :=
  ∃ ident raw, LineAt tokens i [.ident ident, .punct .equal, .number value] ∧
    file.snippet ident.span = .ok raw ∧ String.ofList (nfkc raw) = name

/-- The namespace of a file with the given tokens binds what its lines assign. -/
structure BindsAssigned (file : SourceFile) (tokens : List Token) (symbols : SymbolTable)
    (ns : Namespace UInt64) : Prop where
  /-- A spelling has the value of the last line that assigns to its normal form. -/
  resolve_iff : ∀ spelling value, ns.resolve? symbols spelling = some value ↔
    ∃ i, Assigns file tokens i (normalFormOf spelling) value ∧
      ∀ j v, Assigns file tokens j (normalFormOf spelling) v → j ≤ i
  names_iff : ∀ name, name ∈ ns.names.map symbols.textOf ↔
    ∃ i value, Assigns file tokens i name value
  nodup : (ns.names.map symbols.textOf).Nodup
  /-- Names stand in the order of the first lines that assign to them. -/
  ordered : (ns.names.map symbols.textOf).Pairwise fun a b =>
    ∃ i value, Assigns file tokens i a value ∧ ∀ j v, Assigns file tokens j b v → i < j

/-- The name of every identifier is the normal form of its spelling in the file. -/
def NamedAsSpelled (file : SourceFile) (symbols : SymbolTable) (tokens : List Token) : Prop :=
  ∀ ident, .ident ident ∈ tokens → ∃ raw, file.snippet ident.span = .ok raw ∧
    symbols.strings[ident.name.index]? = some (String.ofList (nfkc raw))

theorem assignment?_eq_some_iff {line : List Token} {name : Symbol} {value : UInt64} :
    assignment? line = some (name, value) ↔
      ∃ span, line = [.ident ⟨name, span⟩, .punct .equal, .number value] := by
  constructor
  · intro h
    unfold assignment? at h
    split at h
    · next ident v =>
      rw [Option.some.injEq, Prod.mk.injEq] at h
      obtain ⟨rfl, rfl⟩ := h
      exact ⟨ident.span, rfl⟩
    · cases h
  · rintro ⟨span, rfl⟩
    rfl

section Spelled

variable {file : SourceFile} {tokens : List Token} {symbols : SymbolTable}

/-- An assignment to a name is one to its symbol. -/
theorem NamedAsSpelled.assigns_iff (h : NamedAsSpelled file symbols tokens) {i : Nat}
    {name : String} {value : UInt64} :
    Assigns file tokens i name value ↔
      ∃ sym : Symbol, symbols.strings[sym.index]? = some name ∧
        (tokenLines tokens)[i]?.bind assignment? = some (sym, value) := by
  simp only [Assigns, lineAt_iff]
  constructor
  · rintro ⟨ident, raw, hline, hraw, rfl⟩
    obtain ⟨raw', hraw', hname⟩ := h ident ((lineAt_iff.2 hline).subset List.mem_cons_self)
    rw [hraw, Except.ok.injEq] at hraw'
    subst hraw'
    refine ⟨ident.name, hname, ?_⟩
    rw [hline]
    rfl
  · rintro ⟨sym, hsym, hbind⟩
    obtain ⟨line, hline, hassign⟩ := Option.bind_eq_some_iff.1 hbind
    obtain ⟨span, rfl⟩ := assignment?_eq_some_iff.1 hassign
    obtain ⟨raw, hraw, hname⟩ := h ⟨sym, span⟩ ((lineAt_iff.2 hline).subset List.mem_cons_self)
    rw [hsym, Option.some.injEq] at hname
    exact ⟨⟨sym, span⟩, raw, hline, hraw, hname.symm⟩

theorem NamedAsSpelled.knownIn (h : NamedAsSpelled file symbols tokens) :
    (bindAssignments tokens).KnownIn symbols := by
  intro name hname
  obtain ⟨i, value, hbind⟩ := Namespace.mem_names_ofList_iff.1 hname
  obtain ⟨line, hline, hassign⟩ := Option.bind_eq_some_iff.1 hbind
  obtain ⟨span, rfl⟩ := assignment?_eq_some_iff.1 hassign
  obtain ⟨raw, -, hraw⟩ := h ⟨name, span⟩ ((lineAt_iff.2 hline).subset List.mem_cons_self)
  exact ⟨_, hraw⟩

theorem NamedAsSpelled.nodup_names (h : NamedAsSpelled file symbols tokens) :
    ((bindAssignments tokens).names.map symbols.textOf).Nodup :=
  Namespace.nodup_map_textOf h.knownIn (Namespace.nodup_names_ofList _)

/-- A name is bound to what its symbol is bound to. -/
theorem NamedAsSpelled.get?_eq_some_iff (h : NamedAsSpelled file symbols tokens) {name : String}
    {value : UInt64} :
    (bindAssignments tokens).get? symbols name = some value ↔
      ∃ i, Assigns file tokens i name value ∧ ∀ j v, Assigns file tokens j name v → j ≤ i := by
  rw [Namespace.get?, Option.bind_eq_some_iff]
  simp only [SymbolTable.lookup?_eq_some_iff, bindAssignments,
    Namespace.getSymbol?_ofList_eq_some_iff, h.assigns_iff]
  constructor
  · rintro ⟨sym, hsym, i, hi, hlast⟩
    refine ⟨i, ⟨sym, hsym, hi⟩, ?_⟩
    rintro j v ⟨sym', hsym', hj⟩
    obtain rfl := SymbolTable.symbol_unique hsym hsym'
    exact hlast j v hj
  · rintro ⟨i, ⟨sym, hsym, hi⟩, hlast⟩
    exact ⟨sym, hsym, i, hi, fun j v hj => hlast j v ⟨sym, hsym, hj⟩⟩

theorem NamedAsSpelled.mem_names_iff (h : NamedAsSpelled file symbols tokens) {name : String} :
    name ∈ (bindAssignments tokens).names.map symbols.textOf ↔
      ∃ i value, Assigns file tokens i name value := by
  simp only [List.mem_map, h.assigns_iff]
  constructor
  · rintro ⟨sym, hsym, rfl⟩
    obtain ⟨s, hs⟩ := h.knownIn sym hsym
    obtain ⟨i, value, hi⟩ := Namespace.mem_names_ofList_iff.1 hsym
    exact ⟨i, value, sym, SymbolTable.textOf_eq hs ▸ hs, hi⟩
  · rintro ⟨i, value, sym, hsym, hi⟩
    exact ⟨sym, Namespace.mem_names_ofList_iff.2 ⟨i, value, hi⟩, SymbolTable.textOf_eq hsym⟩

theorem NamedAsSpelled.pairwise_names (h : NamedAsSpelled file symbols tokens) :
    ((bindAssignments tokens).names.map symbols.textOf).Pairwise fun a b =>
      ∃ i value, Assigns file tokens i a value ∧ ∀ j v, Assigns file tokens j b v → i < j := by
  rw [List.pairwise_map]
  refine Namespace.pairwise_names_ofList.imp_of_mem fun {a b} ha hb ⟨i, value, hi, hfirst⟩ => ?_
  obtain ⟨s, hs⟩ := h.knownIn a ha
  obtain ⟨r, hr⟩ := h.knownIn b hb
  rw [SymbolTable.textOf_eq hs, SymbolTable.textOf_eq hr]
  simp only [h.assigns_iff]
  refine ⟨i, value, ⟨a, hs, hi⟩, ?_⟩
  rintro j v ⟨sym, hsym, hj⟩
  obtain rfl := SymbolTable.symbol_unique hsym hr
  exact hfirst j v hj

theorem NamedAsSpelled.bindsAssigned (h : NamedAsSpelled file symbols tokens) :
    BindsAssigned file tokens symbols (bindAssignments tokens) where
  resolve_iff spelling value := by
    rw [Namespace.resolve?, normalize_eq_nfkc]
    exact h.get?_eq_some_iff
  names_iff _ := h.mem_names_iff
  nodup := h.nodup_names
  ordered := h.pairwise_names

end Spelled

/-! ## Two tables -/

/-- Tokens of two tables that are the same up to the spans of identifiers, names being compared by
the strings that they stand for. -/
inductive Token.Same (t t' : SymbolTable) : Token → Token → Prop
  | ident {a b : Ident} (h : t.SameName t' a.name b.name) : Token.Same t t' (.ident a) (.ident b)
  | other {token : Token} (h : token.isIdent = false) : Token.Same t t' token token

section Two

variable {t t' : SymbolTable} {tokens tokens' : List Token}

theorem Token.Same.symm {a b : Token} (h : Token.Same t t' a b) : Token.Same t' t b a := by
  cases h with
  | ident h => exact .ident h.symm
  | other h => exact .other h

theorem Token.Same.endsLine_eq {a b : Token} (h : Token.Same t t' a b) :
    a.endsLine = b.endsLine := by
  cases h with
  | ident _ => rfl
  | other _ => rfl

theorem forall₂_tokenLines (h : List.Forall₂ (Token.Same t t') tokens tokens') :
    List.Forall₂ (List.Forall₂ (Token.Same t t')) (tokenLines tokens) (tokenLines tokens') := by
  induction h with
  | nil => exact .cons .nil .nil
  | @cons a b tokens tokens' hab htokens ih =>
    have hends := hab.endsLine_eq
    cases ha : a.endsLine with
    | true =>
      rw [tokenLines_of_endsLine ha, tokenLines_of_endsLine (hends ▸ ha)]
      exact .cons .nil ih
    | false =>
      obtain ⟨line, lines, htl, hlines⟩ := tokenLines_of_not_endsLine ha tokens
      obtain ⟨line', lines', htl', hlines'⟩ := tokenLines_of_not_endsLine (hends ▸ ha) tokens'
      rw [htl, htl', List.forall₂_cons] at ih
      rw [hlines, hlines']
      exact .cons (.cons hab ih.1) ih.2

/-- A line of the same tokens as an assignment is an assignment. -/
theorem exists_assignment?_eq_some {line line' : List Token} {p : Symbol × UInt64}
    (h : List.Forall₂ (Token.Same t t') line line') (hp : assignment? line = some p) :
    ∃ p', assignment? line' = some p' ∧ Namespace.SameBinding t t' p p' := by
  obtain ⟨span, rfl⟩ := assignment?_eq_some_iff.1 hp
  obtain _ | ⟨hfirst, _ | ⟨hsecond, _ | ⟨hthird, _ | _⟩⟩⟩ := h
  cases hfirst with
  | other hident => cases hident
  | @ident _ b hname =>
    cases hsecond
    cases hthird
    exact ⟨_, rfl, hname, rfl⟩

theorem rel_assignment? {line line' : List Token}
    (h : List.Forall₂ (Token.Same t t') line line') :
    Option.Rel (Namespace.SameBinding t t') (assignment? line) (assignment? line') := by
  cases hline : assignment? line with
  | some p =>
    obtain ⟨p', hp', hsame⟩ := exists_assignment?_eq_some h hline
    rw [hp']
    exact .some hsame
  | none =>
    cases hline' : assignment? line' with
    | none => exact .none
    | some p' =>
      have hback : List.Forall₂ (Token.Same t' t) line' line :=
        (h.imp fun _ _ hab => hab.symm).flip
      obtain ⟨p, hp, -⟩ := exists_assignment?_eq_some hback hline'
      rw [hline] at hp
      cases hp

theorem same_bindAssignments (h : List.Forall₂ (Token.Same t t') tokens tokens') :
    Namespace.Same t t' (bindAssignments tokens) (bindAssignments tokens') := by
  apply Namespace.same_ofList
  refine List.rel_filterMap ?_ (forall₂_tokenLines h)
  intro line line' hline
  exact rel_assignment? hline

end Two

/-! ## Files -/

/-- The identifiers of segments are named as they are spelled. -/
theorem Segment.exists_of_ident_mem_tokensOf {symbols symbols' : SymbolTable}
    {segments : List Segment} (hx : symbols'.Extends (symbolsAfter symbols segments))
    {ident : Ident} (h : .ident ident ∈ (tokensOf symbols segments).map (·.token)) :
    ∃ s ∈ segments, ∃ raw, s.lexeme = .ident raw ∧ ident.span = s.span ∧
      symbols'.strings[ident.name.index]? = some (nameOf raw) := by
  induction segments generalizing symbols with
  | nil => cases h
  | cons s segments ih =>
    rw [map_token_tokensOf_cons, List.mem_append] at h
    rcases h with h | h
    · have hs : symbols'.Extends (s.internIn symbols) := hx.trans (extends_symbolsAfter _ segments)
      have htoken : s.token? symbols = some (.ident ident) := Option.mem_toList.1 h
      unfold token? at htoken
      unfold internIn at hs
      cases hl : s.lexeme with
      | ident raw =>
        simp only [hl, Option.some.injEq, Token.ident.injEq] at htoken hs
        subst htoken
        exact ⟨s, List.mem_cons_self, raw, hl, rfl, hs _ _ (symbols.getElem?_strings_intern _)⟩
      | _ => simp [hl] at htoken
    · obtain ⟨s', hs', hrest⟩ := ih hx h
      exact ⟨s', List.mem_cons_of_mem s hs', hrest⟩

theorem namedAsSpelled_tokenize {file : SourceFile} {options : LexOptions}
    {policy : RecoveryPolicy} {symbols : SymbolTable} {log : DiagnosticLog}
    {tokens : Array SpannedToken} {lx : Lexer}
    (h : tokenize file options policy symbols log = (.ok tokens, lx)) :
    NamedAsSpelled file lx.symbols (tokens.toList.map (·.token)) := by
  obtain ⟨segments, hsegments, -, htokens, hsymbols, -⟩ := exists_of_tokenize_eq_ok h
  intro ident hident
  rw [htokens] at hident
  rw [hsymbols]
  obtain ⟨s, hs, raw, hl, hspan, hname⟩ :=
    Segment.exists_of_ident_mem_tokensOf (SymbolTable.extends_refl _) hident
  refine ⟨raw, ?_, ?_⟩
  · rw [hspan, hsegments.snippet hs, hl]
    rfl
  · rw [hname, nameOf, normalize_eq_nfkc]

end Lexicon
