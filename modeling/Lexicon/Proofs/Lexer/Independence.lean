import Lexicon.Proofs.Assignment
import Lexicon.Proofs.Lexer.Lines

/-!
# What was interned before

The symbols that tokenizing a file hands out depend on what was interned before it, but nothing else
does: two runs over one text, from any two symbol tables, have the same outcome up to symbols and
file numbers, and the namespaces of their tokens answer every query alike (`tokenize_independent`).
-/

namespace Lexicon

open Source Text

/-! ## Segments from two tables -/

namespace Segment

variable {t t' symbols symbols' : SymbolTable} (file : FileId) (offset lines : Nat)

/-- A segment yields the same token from any two tables. -/
theorem forall₂_token? {s : Segment} (hx : t.Extends (s.internIn symbols))
    (hx' : t'.Extends (s.internIn symbols')) :
    List.Forall₂ (Token.Same t t') (s.token? symbols).toList
      ((s.moveTo file offset lines).token? symbols').toList := by
  have hlexeme : (s.moveTo file offset lines).lexeme = s.lexeme := rfl
  unfold token?
  unfold internIn at hx hx'
  rw [hlexeme]
  cases hl : s.lexeme with
  | ident raw =>
    rw [hl] at hx hx'
    have hname := hx _ _ (symbols.getElem?_strings_intern (nameOf raw))
    have hname' := hx' _ _ (symbols'.getElem?_strings_intern (nameOf raw))
    exact .cons (.ident ⟨nameOf raw, hname, hname'⟩) .nil
  | rejected => exact .nil
  | number | newline | punct | invalid | eof => exact .cons (.other rfl) .nil

theorem forall₂_tokensOf {segments : List Segment}
    (hx : t.Extends (symbolsAfter symbols segments))
    (hx' : t'.Extends (symbolsAfter symbols' (segments.map (·.moveTo file offset lines)))) :
    List.Forall₂ (Token.Same t t') ((tokensOf symbols segments).map (·.token))
      ((tokensOf symbols' (segments.map (·.moveTo file offset lines))).map (·.token)) := by
  induction segments generalizing symbols symbols' with
  | nil => exact .nil
  | cons s segments ih =>
    have hs : t.Extends (s.internIn symbols) := hx.trans (extends_symbolsAfter _ segments)
    have hs' : t'.Extends (s.internIn symbols') := hx'.trans (extends_symbolsAfter _ _)
    rw [List.map_cons, map_token_tokensOf_cons, map_token_tokensOf_cons]
    exact List.rel_append (forall₂_token? file offset lines hs hs') (ih hx hx')

end Segment

open Segment

/-- A file has the same segments under another name and number. -/
theorem SegmentsOf.moveTo {file file' : SourceFile} {segments : List Segment}
    (h : SegmentsOf file segments) (htext : file'.text = file.text) :
    SegmentsOf file' (segments.map (·.moveTo file'.id 0 0)) := by
  have hmoved := Segmented.moveTo h file'.id 0 0
  rw [Position.shift_zero] at hmoved
  rw [SegmentsOf, htext]
  exact hmoved

/-! ## Runs from two tables -/

/-- Tokens that are the same by name in two tables, up to the number `id` of their file. -/
structure SameTokens (id : FileId) (symbols symbols' : SymbolTable)
    (tokens tokens' : List SpannedToken) : Prop where
  named_eq : tokens'.map (·.named symbols') = moveTokensTo id 0 0 (tokens.map (·.named symbols))
  /-- Identifiers have one symbol in both lists, or in neither of them. -/
  symbol_eq_iff : ∀ (i j : Nat) (a b a' b' : Ident),
    (tokens.map (·.token))[i]? = some (.ident a) → (tokens.map (·.token))[j]? = some (.ident b) →
    (tokens'.map (·.token))[i]? = some (.ident a') →
    (tokens'.map (·.token))[j]? = some (.ident b') → (a.name = b.name ↔ a'.name = b'.name)
  /-- What assignments bind is the same, whatever was interned since. -/
  answers : ∀ t t' : SymbolTable, t.Extends symbols → t'.Extends symbols' →
    Namespace.SameAnswers t t' (bindAssignments (tokens.map (·.token)))
      (bindAssignments (tokens'.map (·.token)))

/-- Outcomes that are the same up to symbols and the number `id` of the file: the same reports
behind those of the logs, and the same tokens or the same error. -/
structure SameOutcome (id : FileId) (log log' : DiagnosticLog)
    (run run' : Except LexError (Array SpannedToken) × Lexer) : Prop where
  reports : ∃ reports, run.2.log = log.emitAll reports ∧
    run'.2.log = log'.emitAll (moveReportsTo id 0 0 reports)
  result :
    (∃ tokens tokens', run.1 = .ok tokens ∧ run'.1 = .ok tokens' ∧
      SameTokens id run.2.symbols run'.2.symbols tokens.toList tokens'.toList) ∨
    ∃ e, run.1 = .error e ∧ run'.1 = .error { e with span := e.span.moveTo id 0 0 }

theorem getElem?_of_forall₂ {α β : Type} {r : α → β → Prop} {l : List α} {l' : List β} {i : Nat}
    {a : α} {b : β} (h : List.Forall₂ r l l') (ha : l[i]? = some a) (hb : l'[i]? = some b) :
    r a b := by
  induction h generalizing i with
  | nil => cases ha
  | cons hab hrest ih =>
    cases i with
    | zero =>
      cases ha
      cases hb
      exact hab
    | succ i => exact ih ha hb

section Tables

variable (options : LexOptions) (symbols symbols' : SymbolTable) (log log' : DiagnosticLog)
  {file file' : SourceFile} {segments : List Segment}

theorem sameTokens_tokensOf (id : FileId) (segments : List Segment) :
    SameTokens id (symbolsAfter symbols segments)
      (symbolsAfter symbols' (segments.map (·.moveTo id 0 0))) (tokensOf symbols segments)
      (tokensOf symbols' (segments.map (·.moveTo id 0 0))) := by
  refine ⟨?_, ?_, ?_⟩
  · rw [map_named_tokensOf (SymbolTable.extends_refl _),
      map_named_tokensOf (SymbolTable.extends_refl _), namedOf_moveTo]
  · have hsame := forall₂_tokensOf id 0 0 (SymbolTable.extends_refl (symbolsAfter symbols segments))
      (SymbolTable.extends_refl (symbolsAfter symbols' (segments.map (·.moveTo id 0 0))))
    intro i j a b a' b' ha hb ha' hb'
    cases getElem?_of_forall₂ hsame ha ha' with
    | other h => cases h
    | ident hname =>
      cases getElem?_of_forall₂ hsame hb hb' with
      | other h => cases h
      | ident hname' => exact hname.eq_iff hname'
  · intro t t' hx hx'
    exact (same_bindAssignments (forall₂_tokensOf id 0 0 hx hx')).answers

theorem sameOutcome_skipLine (h : SegmentsOf file segments) (htext : file'.text = file.text) :
    SameOutcome file'.id log log' (tokenize file options .skipLine symbols log)
      (tokenize file' options .skipLine symbols' log') := by
  obtain ⟨lx, hrun, hsymbols, hlog⟩ := tokenize_skipLine options symbols log h
  obtain ⟨lx', hrun', hsymbols', hlog'⟩ := tokenize_skipLine options symbols' log' (h.moveTo htext)
  rw [diagnosticsOf_moveTo] at hlog'
  rw [hrun, hrun']
  refine ⟨⟨_, hlog, hlog'⟩, .inl ⟨_, _, rfl, rfl, ?_⟩⟩
  rw [hsymbols, hsymbols']
  exact sameTokens_tokensOf symbols symbols' file'.id segments

theorem sameOutcome_abort (h : SegmentsOf file segments) (htext : file'.text = file.text)
    (hname : file'.name = file.name) :
    SameOutcome file'.id log log' (tokenize file options .abort symbols log)
      (tokenize file' options .abort symbols' log') := by
  have hmoved := h.moveTo htext
  rcases forall_or_exists_rejected segments with
    hs | ⟨before, s, after, head, c, tail, rfl, hbefore, hs⟩
  · have hs' : ∀ s ∈ segments.map (·.moveTo file'.id 0 0), s.lexeme.isRejected = false :=
      List.forall_mem_map.2 hs
    rw [tokenize_abort_eq options symbols log h hs,
      tokenize_abort_eq options symbols' log' hmoved hs']
    exact sameOutcome_skipLine options symbols symbols' log log' h htext
  · have hbefore' : ∀ s ∈ before.map (·.moveTo file'.id 0 0), s.lexeme.isRejected = false :=
      List.forall_mem_map.2 hbefore
    have hs' : (s.moveTo file'.id 0 0).lexeme = .rejected head c tail := hs
    rw [List.map_append, List.map_cons] at hmoved
    obtain ⟨lx, hrun, hlog⟩ := tokenize_abort_eq_error options symbols log h hbefore hs
    obtain ⟨lx', hrun', hlog'⟩ := tokenize_abort_eq_error options symbols' log' hmoved hbefore' hs'
    rw [diagnosticsOf_moveTo] at hlog'
    rw [charSpan_moveTo, hname] at hrun'
    rw [hrun, hrun']
    exact ⟨⟨_, hlog, hlog'⟩, .inr ⟨_, rfl, rfl⟩⟩

end Tables

/-- Tokenizing a text under a name does not depend on what was interned, reported or loaded
before. -/
theorem tokenize_independent (name : String) (text : List Char) (options : LexOptions)
    (policy : RecoveryPolicy) (symbols symbols' : SymbolTable) (log log' : DiagnosticLog)
    (id id' : FileId) :
    SameOutcome id' log log' (tokenize { id, name, text } options policy symbols log)
      (tokenize { id := id', name, text } options policy symbols' log') := by
  obtain ⟨segments, h⟩ := exists_segmentsOf { id, name, text }
  have htext : ({ id := id', name, text } : SourceFile).text =
      ({ id, name, text } : SourceFile).text := rfl
  cases policy with
  | skipLine => exact sameOutcome_skipLine options symbols symbols' log log' h htext
  | abort => exact sameOutcome_abort options symbols symbols' log log' h htext rfl

end Lexicon
