import Lexicon.Proofs.Lexer.Run

/-!
# Tokens by name

Which symbol an identifier gets depends on what was interned before it, its name does not.  With
names in place of symbols, the tokens of segments can be told without a symbol table
(`map_named_tokensOf`), and so can what tokenizing a file yields (`yields_skipLine`).
-/

namespace Lexicon

open Source Text Unicode

/-- A token with the name of an identifier in place of its symbol. -/
inductive NamedToken where
  | ident (name : String) (span : Span)
  | number (value : UInt64)
  | newline
  | punct (mark : Punctuation)
  | invalid (c : Char)
  | eof
  deriving DecidableEq, Repr

/-- The token with the name that an identifier has in `symbols`. -/
def Token.named (symbols : SymbolTable) : Token → NamedToken
  | .ident id => .ident (symbols.textOf id.name) id.span
  | .number value => .number value
  | .newline => .newline
  | .punct mark => .punct mark
  | .invalid c => .invalid c
  | .eof => .eof

def SpannedToken.named (symbols : SymbolTable) (t : SpannedToken) : NamedToken × Span :=
  (t.token.named symbols, t.span)

namespace Segment

/-- The token that a segment yields, by name. -/
def named? (s : Segment) : Option NamedToken :=
  match s.lexeme with
  | .ident raw => some (.ident (nameOf raw) s.span)
  | .number literal => some (.number ((Numeral.value? literal).getD Numeral.largest))
  | .newline => some .newline
  | .punct mark => some (.punct mark)
  | .invalid c => some (.invalid c)
  | .eof => some .eof
  | .rejected _ _ _ => none

/-- The tokens of segments by name, with their spans. -/
def namedOf (segments : List Segment) : List (NamedToken × Span) :=
  segments.filterMap fun s => s.named?.map (·, s.span)

theorem namedOf_cons (s : Segment) (segments : List Segment) :
    namedOf (s :: segments) = (s.named?.map (·, s.span)).toList ++ namedOf segments := by
  rw [namedOf, List.filterMap_cons]
  cases s.named? <;> rfl

theorem namedOf_append (a b : List Segment) : namedOf (a ++ b) = namedOf a ++ namedOf b :=
  List.filterMap_append

theorem map_named_token? {symbols symbols' : SymbolTable} {s : Segment}
    (h : symbols'.Extends (s.internIn symbols)) :
    (s.token? symbols).map (·.named symbols') = s.named? := by
  cases hs : s.lexeme with
  | ident raw =>
    simp only [internIn, hs] at h
    simp [token?, named?, hs, Token.named, SymbolTable.textOf_intern_of_extends h]
  | _ => simp [token?, named?, hs, Token.named]

/-- Names do not depend on the symbol table before, and later tables still have them. -/
theorem map_named_tokensOf {symbols symbols' : SymbolTable} {segments : List Segment}
    (h : symbols'.Extends (symbolsAfter symbols segments)) :
    (tokensOf symbols segments).map (·.named symbols') = namedOf segments := by
  induction segments generalizing symbols with
  | nil => rfl
  | cons s segments ih =>
    have hs : symbols'.Extends (s.internIn symbols) := h.trans (extends_symbolsAfter _ segments)
    rw [tokensOf, List.map_append, ih h, namedOf_cons, ← map_named_token? hs]
    cases s.token? symbols <;> rfl

end Segment

/-- Whatever was interned and reported before, tokenizing the file succeeds with `tokens`, by name,
and adds `reports` to the log. -/
def Yields (file : SourceFile) (options : LexOptions) (policy : RecoveryPolicy)
    (tokens : List (NamedToken × Span)) (reports : List Diagnostic) : Prop :=
  ∀ (symbols : SymbolTable) (log : DiagnosticLog), ∃ spanned lx,
    tokenize file options policy symbols log = (.ok spanned, lx) ∧
      spanned.toList.map (·.named lx.symbols) = tokens ∧ lx.log = log.emitAll reports

theorem yields_skipLine {file : SourceFile} {segments : List Segment} (options : LexOptions)
    (h : SegmentsOf file segments) :
    Yields file options .skipLine (Segment.namedOf segments)
      (Segment.diagnosticsOf options segments) := by
  intro symbols log
  obtain ⟨lx, hrun, hsymbols, hlog⟩ := tokenize_skipLine options symbols log h
  refine ⟨_, lx, hrun, ?_, hlog⟩
  exact Segment.map_named_tokensOf (hsymbols ▸ SymbolTable.extends_refl _)

end Lexicon
