import Mathlib
import Lexicon.Proofs.Lexer.Independence

/-!
# Written tokens

Tokens are written one after another with a blank between any two, a line feed as itself.  A blank
ends every lexeme, so the written text has one segment for each token (`exists_segmented_spaced`),
and it is read as the tokens that were written, with nothing to report (`reads_as_written`).
-/

namespace Lexicon

open Source Text Unicode

namespace Token

/-- A token as written in a source text. -/
def source (symbols : SymbolTable) : Token → String
  | newline => "\n"
  | token => token.text symbols

/-- The tokens that source texts are written with.  The name of an identifier is an identifier in
normal form. -/
inductive IsWritable (symbols : SymbolTable) : Token → Prop
  | ident {id : Ident} {name : List Char}
    (hname : symbols.strings[id.name.index]? = some (String.ofList name)) (h : IsIdentifier name)
    (hform : nfkc name = name) : IsWritable symbols (ident id)
  | number (value : UInt64) : IsWritable symbols (number value)
  | newline : IsWritable symbols newline
  | punct (mark : Punctuation) : IsWritable symbols (punct mark)

def name? : Token → Option Symbol
  | ident id => some id.name
  | _ => none

end Token

/-- Tokens as written in a source text, with a blank between any two of them. -/
def sourceOf (symbols : SymbolTable) (tokens : List Token) : String :=
  " ".intercalate (tokens.map (Token.source symbols))

/-- Written tokens with a blank in front of each. -/
def spaced (symbols : SymbolTable) (tokens : List Token) : List Char :=
  tokens.flatMap fun t => ' ' :: (t.source symbols).toList

theorem toList_sourceOf_cons (symbols : SymbolTable) (t : Token) (tokens : List Token) :
    (sourceOf symbols (t :: tokens)).toList =
      (t.source symbols).toList ++ spaced symbols tokens := by
  induction tokens generalizing t with
  | nil => simp [sourceOf, spaced]
  | cons u tokens ih =>
    rw [sourceOf, List.map_cons, List.map_cons, String.intercalate_cons_cons, ← List.map_cons,
      ← sourceOf, String.toList_append, ih, spaced, spaced, List.flatMap_cons,
      String.toList_append, List.append_assoc]
    rfl

/-- At most a blank follows. -/
def AtBlank (rest : List Char) : Prop := ∀ c ∈ rest.head?, c = ' '

theorem atBlank_nil : AtBlank [] := by
  intro c hc
  cases hc

theorem atBlank_spaced (symbols : SymbolTable) (tokens : List Token) :
    AtBlank (spaced symbols tokens) := by
  intro c hc
  cases tokens with
  | nil => cases hc
  | cons t tokens => exact (Option.some.inj hc).symm

theorem Numeral.stops_of_atBlank {rest : List Char} (h : AtBlank rest) : Stops rest := by
  rintro c more rfl
  obtain rfl := h c rfl
  rfl

/-! ## Lexemes of written tokens -/

/-- The lexeme that a token is written as. -/
def Token.lexeme (symbols : SymbolTable) : Token → Lexeme
  | ident id => .ident (symbols.textOf id.name).toList
  | number value => .number (toString value).toList
  | newline => .newline
  | punct mark => .punct mark
  | invalid c => .invalid c
  | eof => .eof

namespace Token.IsWritable

variable {printed : SymbolTable} {t : Token}

theorem lexeme_ident {id : Ident} {name : List Char}
    (hname : printed.strings[id.name.index]? = some (String.ofList name)) :
    (Token.ident id).lexeme printed = .ident name := by
  rw [lexeme, SymbolTable.textOf_eq hname, String.toList_ofList]

theorem lexeme_ne_eof (h : t.IsWritable printed) : t.lexeme printed ≠ .eof := by
  cases h <;> exact Lexeme.noConfusion

theorem spelling_lexeme (h : t.IsWritable printed) :
    (t.lexeme printed).spelling = (t.source printed).toList := by
  cases h with
  | ident hname h hform => rfl
  | number value => rfl
  | newline => simp [lexeme, source, Lexeme.spelling]
  | punct mark => exact (String.toList_singleton mark.char).symm

/-- A blank ends the lexeme of a written token. -/
theorem followedBy (h : t.IsWritable printed) {rest : List Char} (hr : AtBlank rest) :
    (t.lexeme printed).FollowedBy rest := by
  cases h with
  | ident hname h hform =>
    rw [lexeme_ident hname]
    refine .ident h fun c hc => ?_
    obtain rfl := hr c hc
    decide
  | number value => exact .number (Numeral.isLiteral_toString value) (Numeral.stops_of_atBlank hr)
  | newline => exact .newline rest
  | punct mark => exact .punct mark rest

/-- No written token begins with a byte order mark. -/
theorem head?_source_ne (h : t.IsWritable printed) :
    (t.source printed).toList.head? ≠ some '\uFEFF' := by
  rw [← h.spelling_lexeme]
  cases h with
  | ident hname h hform =>
    obtain ⟨c, rest, rfl, hc, -⟩ := h
    rw [lexeme_ident hname, Lexeme.spelling, List.head?_cons, Ne, Option.some.injEq]
    exact ne_of_apply_ne hc isIdentStart_byteOrderMark
  | number value =>
    obtain ⟨c, rest, hdigits, hc⟩ := (Numeral.isLiteral_toString value).exists_cons
    rw [lexeme, Lexeme.spelling, hdigits, List.head?_cons, Ne, Option.some.injEq]
    exact ne_of_apply_ne hc (by decide)
  | newline =>
    rw [lexeme, Lexeme.spelling]
    decide
  | punct mark =>
    rw [lexeme, Lexeme.spelling]
    cases mark <;> decide

/-! ## Reading a written token -/

variable {s : Segment}

/-- Nothing is to report about a written token. -/
theorem diagnostics_eq_nil (h : t.IsWritable printed) (hs : s.lexeme = t.lexeme printed)
    (options : LexOptions) : s.diagnostics options = [] := by
  cases h with
  | @ident _ name hname h hform =>
    have hnone : normalForm? name = none := by rw [normalForm?_eq, if_pos hform]
    rw [lexeme_ident hname] at hs
    simp [Segment.diagnostics, hs, hnone]
  | number value => simp [Segment.diagnostics, hs, lexeme, Numeral.value?_toString]
  | newline => simp [Segment.diagnostics, hs, lexeme]
  | punct mark => simp [Segment.diagnostics, hs, lexeme]

/-- A written token is read as a token of the same name or value. -/
theorem exists_token? (h : t.IsWritable printed) (hs : s.lexeme = t.lexeme printed)
    {symbols after : SymbolTable} (hx : after.Extends (s.internIn symbols)) :
    ∃ u, s.token? symbols = some u ∧ Token.Same printed after t u := by
  cases h with
  | @ident id name hname h hform =>
    have hform' : nameOf name = String.ofList name := by rw [nameOf, normalize_eq_nfkc, hform]
    rw [lexeme_ident hname] at hs
    simp only [Segment.internIn, hs, hform'] at hx
    refine ⟨.ident ⟨(symbols.intern (String.ofList name)).1, s.span⟩, ?_, .ident ⟨_, hname, ?_⟩⟩
    · simp [Segment.token?, hs, hform']
    · exact hx _ _ (symbols.getElem?_strings_intern (String.ofList name))
  | number value =>
    refine ⟨.number value, ?_, .other rfl⟩
    simp [Segment.token?, hs, lexeme, Numeral.value?_toString]
  | newline => exact ⟨.newline, by simp [Segment.token?, hs, lexeme], .other rfl⟩
  | punct mark => exact ⟨.punct mark, by simp [Segment.token?, hs, lexeme], .other rfl⟩

theorem isRejected_eq_false (h : t.IsWritable printed) (hs : s.lexeme = t.lexeme printed) :
    s.lexeme.isRejected = false := by
  rw [hs]
  cases h <;> rfl

end Token.IsWritable

/-! ## Reading written tokens -/

section Tokens

variable {printed : SymbolTable} {tokens : List Token}
  (h : ∀ t ∈ tokens, t.IsWritable printed)

include h

/-- Spaced tokens have a segment for each of them. -/
theorem exists_segmented_spaced (file : FileId) (p : Position) :
    ∃ segments, Segmented file p (spaced printed tokens) segments ∧
      segments.map (·.lexeme) = tokens.map (Token.lexeme printed) ++ [.eof] := by
  induction tokens generalizing p with
  | nil => exact ⟨_, .eof (.blanks (List.forall_mem_nil _)), rfl⟩
  | cons t tokens ih =>
    rw [List.forall_mem_cons] at h
    obtain ⟨segments, hsegments, hlexemes⟩ :=
      ih h.2 (p.advanceOver ([' '] ++ (t.lexeme printed).spelling))
    refine ⟨.place file p [' '] (t.lexeme printed) :: segments, ?_, ?_⟩
    · have hblank : ∀ c ∈ [' '], isBlank c := List.forall_mem_singleton.2 rfl
      refine .cons ?_ (.blanks hblank) (h.1.followedBy (atBlank_spaced printed tokens))
        h.1.lexeme_ne_eof hsegments
      rw [h.1.spelling_lexeme]
      rfl
    · rw [List.map_cons, hlexemes]
      rfl

/-- Written tokens have a segment for each of them. -/
theorem exists_segmentsOf_source {file : SourceFile}
    (htext : file.text = (sourceOf printed tokens).toList) :
    ∃ segments, SegmentsOf file segments ∧
      segments.map (·.lexeme) = tokens.map (Token.lexeme printed) ++ [.eof] := by
  cases tokens with
  | nil =>
    have hnil : file.text = [] := htext
    refine ⟨[.place file.id .start [] .eof], ?_, rfl⟩
    rw [SegmentsOf, hnil]
    exact .eof (.blanks (List.forall_mem_nil _))
  | cons t tokens =>
    rw [List.forall_mem_cons] at h
    rw [toList_sourceOf_cons] at htext
    have hhead : file.text.head? ≠ some '\uFEFF' := by
      obtain ⟨c, rest, hsource⟩ : ∃ c rest, (t.source printed).toList = c :: rest := by
        rw [← h.1.spelling_lexeme]
        have hend : (t.lexeme printed).FollowedBy [] := h.1.followedBy atBlank_nil
        exact List.exists_cons_of_ne_nil (hend.spelling_ne_nil h.1.lexeme_ne_eof)
      have hne := h.1.head?_source_ne
      rw [hsource] at hne
      rwa [htext, hsource]
    obtain ⟨segments, hsegments, hlexemes⟩ := exists_segmented_spaced h.2 file.id
      (Position.start.advanceOver ([] ++ (t.lexeme printed).spelling))
    refine ⟨.place file.id .start [] (t.lexeme printed) :: segments, ?_, ?_⟩
    · rw [SegmentsOf, byteOrderMark, withoutMark, if_neg hhead, if_neg hhead]
      refine .cons ?_ (.blanks (List.forall_mem_nil _))
        (h.1.followedBy (atBlank_spaced printed tokens)) h.1.lexeme_ne_eof hsegments
      rw [htext, h.1.spelling_lexeme, List.nil_append]
    · rw [List.map_cons, hlexemes]
      rfl

variable {segments : List Segment}
  (hs : segments.map (·.lexeme) = tokens.map (Token.lexeme printed) ++ [.eof])

include hs

theorem forall₂_same_tokensOf {symbols after : SymbolTable}
    (hx : after.Extends (Segment.symbolsAfter symbols segments)) :
    List.Forall₂ (Token.Same printed after) (tokens ++ [.eof])
      ((Segment.tokensOf symbols segments).map (·.token)) := by
  induction tokens generalizing segments symbols with
  | nil =>
    obtain ⟨s, rfl, heof⟩ := List.map_eq_singleton_iff.1 hs
    have htoken := (Segment.token?_eq_eof_iff symbols s).2 heof
    rw [Segment.map_token_tokensOf_cons, htoken]
    exact .cons (.other rfl) .nil
  | cons t tokens ih =>
    rw [List.forall_mem_cons] at h
    obtain ⟨s, segments, rfl, hs, hrest⟩ := List.map_eq_cons_iff.1 hs
    obtain ⟨u, hu, hsame⟩ :=
      h.1.exists_token? hs (hx.trans (Segment.extends_symbolsAfter _ segments))
    rw [Segment.map_token_tokensOf_cons, hu]
    exact .cons hsame (ih h.2 hrest hx)

theorem diagnosticsOf_eq_nil (options : LexOptions) :
    Segment.diagnosticsOf options segments = [] := by
  induction tokens generalizing segments with
  | nil =>
    obtain ⟨s, rfl, heof⟩ := List.map_eq_singleton_iff.1 hs
    simp [Segment.diagnosticsOf, Segment.diagnostics, heof]
  | cons t tokens ih =>
    rw [List.forall_mem_cons] at h
    obtain ⟨s, segments, rfl, hs, hrest⟩ := List.map_eq_cons_iff.1 hs
    rw [Segment.diagnosticsOf_cons, h.1.diagnostics_eq_nil hs, ih h.2 hrest, List.append_nil]

theorem forall_isRejected_eq_false : ∀ s ∈ segments, s.lexeme.isRejected = false := by
  induction tokens generalizing segments with
  | nil =>
    obtain ⟨s, rfl, heof⟩ := List.map_eq_singleton_iff.1 hs
    simp [heof, Lexeme.isRejected]
  | cons t tokens ih =>
    rw [List.forall_mem_cons] at h
    obtain ⟨s, segments, rfl, hs, hrest⟩ := List.map_eq_cons_iff.1 hs
    exact List.forall_mem_cons.2 ⟨h.1.isRejected_eq_false hs, ih h.2 hrest⟩

end Tokens

/-- Where the symbols that tokens are written with are still known, the same tokens have the same
symbols. -/
theorem filterMap_name?_of_same {printed symbols : SymbolTable} {tokens tokens' : List Token}
    (hx : symbols.Extends printed) (h : List.Forall₂ (Token.Same printed symbols) tokens tokens') :
    tokens'.filterMap Token.name? = tokens.filterMap Token.name? := by
  induction h with
  | nil => rfl
  | cons hab hrest ih =>
    cases hab with
    | ident hname =>
      obtain ⟨s, ha, hb⟩ := hname
      have heq := SymbolTable.symbol_unique (hx _ _ ha) hb
      simp [Token.name?, heq, ih]
    | other hident => rw [List.filterMap_cons, List.filterMap_cons, ih]

/-- Written tokens are read as they were written, and nothing is reported. -/
theorem reads_as_written (printed : SymbolTable) (tokens : List Token)
    (h : ∀ t ∈ tokens, t.IsWritable printed) (file : SourceFile)
    (htext : file.text = (sourceOf printed tokens).toList) (options : LexOptions)
    (symbols : SymbolTable) (log : DiagnosticLog) :
    ∃ read lx, tokenize file options .abort symbols log = (.ok read, lx) ∧
      List.Forall₂ (Token.Same printed lx.symbols) (tokens ++ [.eof])
        (read.toList.map (·.token)) ∧
      (symbols.Extends printed →
        (read.toList.map (·.token)).filterMap Token.name? = tokens.filterMap Token.name?) ∧
      lx.log = log := by
  obtain ⟨segments, hsegments, hlexemes⟩ := exists_segmentsOf_source h htext
  have haccepted := tokenize_abort_eq options symbols log hsegments
    (forall_isRejected_eq_false h hlexemes)
  obtain ⟨lx, hrun, hsymbols, hlog⟩ := tokenize_skipLine options symbols log hsegments
  have hafter : lx.symbols.Extends (Segment.symbolsAfter symbols segments) :=
    hsymbols ▸ SymbolTable.extends_refl lx.symbols
  have hsame := forall₂_same_tokensOf h hlexemes hafter
  refine ⟨_, lx, haccepted.trans hrun, hsame, fun hx => ?_, ?_⟩
  · have hknown : lx.symbols.Extends printed :=
      (hafter.trans (Segment.extends_symbolsAfter symbols segments)).trans hx
    rw [filterMap_name?_of_same hknown hsame, List.filterMap_append]
    exact List.append_nil _
  · rw [hlog, diagnosticsOf_eq_nil h hlexemes, DiagnosticLog.emitAll_nil]

/-- A line with a name beyond ASCII and the largest number, and the start of a second line. -/
theorem reads_as_written_two_lines :
    ∃ (printed : SymbolTable) (tokens : List Token) (read : Array SpannedToken) (lx : Lexer),
      printed = (({} : SymbolTable).intern "fié").2 ∧
      tokens = [.ident ⟨⟨0⟩, .point .start⟩, .punct .equal, .number Numeral.largest, .newline,
        .punct .plus] ∧
      (∀ t ∈ tokens, t.IsWritable printed) ∧
      "fié = 18446744073709551615 \n +".toList = (sourceOf printed tokens).toList ∧
      printed.Extends printed ∧
      tokenize { id := 0, name := "a", text := "fié = 18446744073709551615 \n +".toList } ⟨true⟩
        .abort printed {} = (.ok read, lx) ∧
      List.Forall₂ (Token.Same printed lx.symbols) (tokens ++ [.eof])
        (read.toList.map (·.token)) ∧
      (read.toList.map (·.token)).filterMap Token.name? = [⟨0⟩] ∧ lx.log = {} := by
  have hident : IsIdentifier "fié".toList :=
    ⟨'f', ['i', 'é'], rfl, by decide +kernel, List.all_eq_true.1 (by decide +kernel)⟩
  have hform : nfkc "fié".toList = "fié".toList := by decide +kernel
  have hname : (({} : SymbolTable).intern "fié").2.strings[0]? =
      some (String.ofList "fié".toList) := by
    cbv
  have hwritable : ∀ t ∈ [Token.ident ⟨⟨0⟩, .point .start⟩, .punct .equal,
      .number Numeral.largest, .newline, .punct .plus],
      t.IsWritable (({} : SymbolTable).intern "fié").2 := by
    simp only [List.forall_mem_cons]
    exact ⟨.ident hname hident hform, .punct _, .number _, .newline, .punct _,
      List.forall_mem_nil _⟩
  have htext : "fié = 18446744073709551615 \n +".toList =
      (sourceOf (({} : SymbolTable).intern "fié").2 [.ident ⟨⟨0⟩, .point .start⟩, .punct .equal,
        .number Numeral.largest, .newline, .punct .plus]).toList := by
    cbv
  have hknown := SymbolTable.extends_refl (({} : SymbolTable).intern "fié").2
  obtain ⟨read, lx, hrun, hsame, hnames, hlog⟩ := reads_as_written _ _ hwritable
    { id := 0, name := "a", text := "fié = 18446744073709551615 \n +".toList } htext ⟨true⟩
    (({} : SymbolTable).intern "fié").2 {}
  exact ⟨_, _, read, lx, rfl, rfl, hwritable, htext, hknown, hrun, hsame, hnames hknown, hlog⟩

end Lexicon
