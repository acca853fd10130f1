import Lexicon.Command.NormalizeWords
import Lexicon.Proofs.Lexer.LongestMatch
import Lexicon.Proofs.Lexer.NormalizedName

/-!
# Words that are normalized

A word is accepted where one identifier stands alone in it: a byte order mark and blanks may be
before it, and blanks and a comment behind (`StandsAlone`).  Its name is then the normal form of the
identifier.  Any other word is refused, with the error about the first character that is rejected,
if there is one (`normalizeWord_isJudged`).  So identifiers are accepted, but not only these
(`normalizeWord_trivia`).
-/

namespace Lexicon

open Source Text Unicode

/-! ## Tokens of segments -/

namespace Segment

theorem exists_lexeme_eq_ident {symbols : SymbolTable} {id : Ident} {s : Segment}
    (h : s.token? symbols = some (.ident id)) : ∃ raw, s.lexeme = .ident raw := by
  unfold token? at h
  split at h
  · next raw hs => exact ⟨raw, hs⟩
  all_goals cases h

/-- Each segment yields one token, if none is rejected. -/
theorem length_tokensOf {segments : List Segment} (symbols : SymbolTable)
    (hs : ∀ s ∈ segments, s.lexeme.isRejected = false) :
    (tokensOf symbols segments).length = segments.length := by
  induction segments generalizing symbols with
  | nil => rfl
  | cons s segments ih =>
    rw [List.forall_mem_cons] at hs
    obtain ⟨token, htoken⟩ := exists_token?_of_not_isRejected symbols hs.1
    rw [tokensOf, htoken, List.length_append, ih (s.internIn symbols) hs.2, List.length_cons,
      Nat.add_comm]
    rfl

end Segment

open Segment

/-! ## Identifiers that stand alone -/

/-- The text holds the identifier `raw`, and otherwise only a byte order mark, blanks and a
comment. -/
structure StandsAlone (raw text : List Char) : Prop where
  isIdentifier : IsIdentifier raw
  exists_eq : ∃ blanks gap, withoutMark text = blanks ++ (raw ++ gap) ∧
    (∀ c ∈ blanks, isBlank c) ∧ IsTrivia gap []

/-- A gap ends the identifier in front of it. -/
theorem IsTrivia.stops {gap rest : List Char} (h : IsTrivia gap rest) :
    ∀ c ∈ gap.head?, isIdentContinue c = false ∧ isAscii c := by
  have hblank : ∀ {c : Char}, isBlank c → isIdentContinue c = false ∧ isAscii c := fun h =>
    ⟨isIdentContinue_of_isBlank h, isAscii_of_isBlank h⟩
  intro c hc
  cases h with
  | blanks h => exact hblank (h c (List.mem_of_mem_head? hc))
  | @comment blanks body rest h hb hr =>
    cases blanks with
    | nil =>
      obtain rfl : '#' = c := Option.some.inj hc
      decide
    | cons d blanks => exact hblank (h c (List.mem_of_mem_head? hc))

theorem withoutMark_of_isIdentifier {text : List Char} (h : IsIdentifier text) :
    withoutMark text = text :=
  if_neg h.head?_ne_mark

theorem standsAlone_self {text : List Char} (h : IsIdentifier text) : StandsAlone text text := by
  refine ⟨h, [], [], ?_, List.forall_mem_nil _, .blanks (List.forall_mem_nil _)⟩
  rw [withoutMark_of_isIdentifier h, List.nil_append, List.append_nil]

namespace StandsAlone

variable {raw text : List Char} (h : StandsAlone raw text)

include h

/-- In an identifier nothing else stands alone. -/
theorem eq_of_isIdentifier (ht : IsIdentifier text) : raw = text := by
  obtain ⟨blanks, gap, htext, hblanks, hgap⟩ := h.exists_eq
  rw [withoutMark_of_isIdentifier ht] at htext
  subst htext
  have hnil : blanks = [] := by
    cases blanks with
    | nil => rfl
    | cons c blanks =>
      have hc := isBlank_of_isIdentStart ht.isIdentStart
      rw [hblanks c List.mem_cons_self] at hc
      cases hc
  subst hnil
  cases gap with
  | nil => rw [List.nil_append, List.append_nil]
  | cons c gap =>
    have hc := ht.forall_isIdentContinue c (by simp)
    rw [(hgap.stops c rfl).1] at hc
    cases hc

end StandsAlone

section Segments

variable {file : SourceFile} {raw : List Char}

theorem StandsAlone.exists_segmentsOf (h : StandsAlone raw file.text) :
    ∃ s s', SegmentsOf file [s, s'] ∧ s.lexeme = .ident raw ∧ s'.lexeme = .eof := by
  obtain ⟨blanks, gap, htext, hblanks, hgap⟩ := h.exists_eq
  refine ⟨_, _, .cons htext (.blanks hblanks) (.ident h.isIdentifier hgap.stops)
    Lexeme.noConfusion (.eof hgap), rfl, rfl⟩

/-- In front of an identifier a gap is only blanks. -/
theorem IsTrivia.forall_isBlank_of_isIdentifier {gap rest : List Char} (hraw : IsIdentifier raw)
    (h : IsTrivia gap (raw ++ rest)) : ∀ c ∈ gap, isBlank c := by
  refine h.forall_isBlank fun hend => ?_
  have hnil := hend.eq_nil hraw.newline_notMem
  obtain ⟨c, more, hcons, -⟩ := hraw
  exact List.cons_ne_nil c more (hcons.symm.trans hnil)

theorem SegmentsOf.standsAlone {s s' : Segment} (h : SegmentsOf file [s, s'])
    (hs : s.lexeme = .ident raw) : StandsAlone raw file.text := by
  cases h with
  | @cons _ _ blanks gap l _ ht hg hl hne h =>
    obtain rfl : l = .ident raw := hs
    cases hl with
    | ident hraw hr =>
      refine ⟨hraw, blanks, gap, ht, hg.forall_isBlank_of_isIdentifier hraw, ?_⟩
      cases h with
      | eof hg => exact hg
      | cons ht hg hl hne h => exact absurd rfl h.ne_nil

end Segments

/-! ## The first rejection -/

/-- The error is about the first character of a file that is rejected. -/
def IsFirstRejection (file : SourceFile) (e : LexError) : Prop :=
  ∃ before s after head c tail, SegmentsOf file (before ++ s :: after) ∧
    (∀ s ∈ before, s.lexeme.isRejected = false) ∧ s.lexeme = .rejected head c tail ∧
    e = ⟨file.name, c, s.charSpan head c⟩

/-- Where an identifier has to start, or to go on, behind `front`, stands the character that the
error is about.  It is beyond ASCII, and the identifier cannot have it there. -/
def IsMisplaced (file : SourceFile) (front : List Char) (e : LexError) : Prop :=
  ∃ head c, isAscii c = false ∧
    (head = [] ∧ isIdentStart c = false ∨ IsIdentifier head ∧ isIdentContinue c = false) ∧
    e.PointsAt file (front ++ head) c

theorem IsFirstRejection.isMisplaced {file : SourceFile} {e : LexError}
    (h : IsFirstRejection file e) : ∃ front, IsMisplaced file front e := by
  obtain ⟨before, s, after, head, c, tail, hsegments, -, hs, rfl⟩ := h
  have hmem : s ∈ before ++ s :: after := List.mem_append_right _ List.mem_cons_self
  obtain ⟨front, back, hchar, hl⟩ := hsegments.exists_spanOf_charSpan hmem hs
  cases hl with
  | rejected hhead hc _ _ =>
    exact ⟨front, head, c, hc, hhead, rfl, rfl, congrArg Position.line hchar.lo_eq, hchar⟩

/-! ## What becomes of a word -/

/-- The file that a word is read as. -/
def argumentFile (word : String) : SourceFile :=
  (SourceMap.addFile {} argumentName word.toList).1

section Word

variable (symbols : SymbolTable) {word : String} {segments : List Segment}

/-- A word without rejected characters is judged by its tokens. -/
theorem normalizeWord_of_segmentsOf (h : SegmentsOf (argumentFile word) segments)
    (hs : ∀ s ∈ segments, s.lexeme.isRejected = false) :
    (∀ id, (tokensOf symbols segments).map (·.token) = [.ident id, .eof] →
      normalizeWord symbols word = .ok (id.name, symbolsAfter symbols segments)) ∧
    ((∀ id, (tokensOf symbols segments).map (·.token) ≠ [.ident id, .eof]) →
      normalizeWord symbols word = .error (.notIdentifier word)) := by
  obtain ⟨lx, hrun, hsymbols, -⟩ := tokenize_skipLine {} symbols {} h
  rw [← tokenize_abort_eq {} symbols {} h hs] at hrun
  have hword : tokenize { id := 0, name := argumentName, text := word.toList } {} .abort symbols
      {} = (.ok (tokensOf symbols segments).toArray, lx) := hrun
  simp only [normalizeWord, hword]
  constructor
  · intro id htokens
    rw [htokens, hsymbols]
  · intro htokens
    split
    · next id heq => exact absurd heq (htokens id)
    · rfl

theorem normalizeWord_of_standsAlone {raw : List Char} (h : StandsAlone raw word.toList) :
    normalizeWord symbols word = .ok (symbols.intern (String.ofList (nfkc raw))) := by
  have hfile : StandsAlone raw (argumentFile word).text := h
  obtain ⟨s, s', hsegments, hs, hs'⟩ := hfile.exists_segmentsOf
  have hname : nameOf raw = String.ofList (nfkc raw) := by rw [nameOf, normalize_eq_nfkc]
  have hword := (normalizeWord_of_segmentsOf symbols hsegments
    (by simp [hs, hs', Lexeme.isRejected])).1
  have hsymbols : symbolsAfter symbols [s, s'] =
      (symbols.intern (String.ofList (nfkc raw))).2 := by
    simp only [symbolsAfter, List.foldl_cons, List.foldl_nil, internIn, hs, hs', hname]
  rw [hword ⟨(symbols.intern (String.ofList (nfkc raw))).1, s.span⟩, hsymbols]
  simp [tokensOf, token?, hs, hs', hname]

/-- An error about a word is about its first character that is rejected. -/
theorem normalizeWord_of_isFirstRejection {e : LexError}
    (h : IsFirstRejection (argumentFile word) e) :
    normalizeWord symbols word = .error (.lexing e) := by
  obtain ⟨before, s, after, head, c, tail, hsegments, hbefore, hs, rfl⟩ := h
  obtain ⟨lx, hrun, -⟩ := tokenize_abort_eq_error {} symbols {} hsegments hbefore hs
  have hword : tokenize { id := 0, name := argumentName, text := word.toList } {} .abort symbols
      {} = (.error ⟨argumentName, c, s.charSpan head c⟩, lx) := hrun
  simp only [normalizeWord, hword]
  rfl

/-- The tokens of an identifier and of the end are those of a word with an identifier alone. -/
theorem exists_standsAlone_of_tokensOf {id : Ident} (h : SegmentsOf (argumentFile word) segments)
    (hs : ∀ s ∈ segments, s.lexeme.isRejected = false)
    (htokens : (tokensOf symbols segments).map (·.token) = [.ident id, .eof]) :
    ∃ raw, StandsAlone raw word.toList := by
  have hlength : segments.length = 2 := by
    rw [← length_tokensOf symbols hs, ← List.length_map, htokens]
    rfl
  obtain ⟨s, s', rfl⟩ := List.length_eq_two.1 hlength
  obtain ⟨token, htoken⟩ :=
    exists_token?_of_not_isRejected symbols (hs s List.mem_cons_self)
  rw [map_token_tokensOf_cons, htoken] at htokens
  obtain rfl : token = .ident id := (List.cons.inj htokens).1
  obtain ⟨raw, hraw⟩ := exists_lexeme_eq_ident htoken
  exact ⟨raw, h.standsAlone hraw⟩

theorem normalizeWord_cases (word : String) :
    (∃ raw, StandsAlone raw word.toList ∧
      normalizeWord symbols word = .ok (symbols.intern (String.ofList (nfkc raw)))) ∨
    (∃ e, IsFirstRejection (argumentFile word) e ∧
      normalizeWord symbols word = .error (.lexing e)) ∨
    normalizeWord symbols word = .error (.notIdentifier word) := by
  obtain ⟨segments, h⟩ := exists_segmentsOf (argumentFile word)
  rcases forall_or_exists_rejected segments with
    hs | ⟨before, s, after, head, c, tail, rfl, hbefore, hs⟩
  · by_cases halone : ∃ raw, StandsAlone raw word.toList
    · obtain ⟨raw, hraw⟩ := halone
      exact .inl ⟨raw, hraw, normalizeWord_of_standsAlone symbols hraw⟩
    · refine .inr (.inr ((normalizeWord_of_segmentsOf symbols h hs).2 fun id htokens => ?_))
      exact halone (exists_standsAlone_of_tokensOf symbols h hs htokens)
  · have hfirst : IsFirstRejection (argumentFile word) ⟨argumentName, c, s.charSpan head c⟩ :=
      ⟨before, s, after, head, c, tail, h, hbefore, hs, rfl⟩
    exact .inr (.inl ⟨_, hfirst, normalizeWord_of_isFirstRejection symbols hfirst⟩)

theorem exists_ok_iff : (∃ named, normalizeWord symbols word = .ok named) ↔
    ∃ raw, StandsAlone raw word.toList := by
  constructor
  · rintro ⟨named, hok⟩
    rcases normalizeWord_cases symbols word with ⟨raw, hraw, -⟩ | ⟨e, -, herror⟩ | herror
    · exact ⟨raw, hraw⟩
    · rw [herror] at hok
      cases hok
    · rw [herror] at hok
      cases hok
  · rintro ⟨raw, hraw⟩
    exact ⟨_, normalizeWord_of_standsAlone symbols hraw⟩

theorem textOf_of_standsAlone {name : Symbol} {symbols' : SymbolTable} {raw : List Char}
    (hok : normalizeWord symbols word = .ok (name, symbols'))
    (hraw : StandsAlone raw word.toList) :
    symbols'.textOf name = String.ofList (nfkc raw) := by
  rw [normalizeWord_of_standsAlone symbols hraw] at hok
  have htext : (symbols.intern (String.ofList (nfkc raw))).2.textOf
      (symbols.intern (String.ofList (nfkc raw))).1 = String.ofList (nfkc raw) :=
    SymbolTable.textOf_intern_of_extends (SymbolTable.extends_refl _)
  rwa [Except.ok.inj hok] at htext

theorem lexing_iff_isFirstRejection (e : LexError) :
    normalizeWord symbols word = .error (.lexing e) ↔ IsFirstRejection (argumentFile word) e := by
  refine ⟨fun herror => ?_, normalizeWord_of_isFirstRejection symbols⟩
  rcases normalizeWord_cases symbols word with ⟨raw, -, hok⟩ | ⟨e', he', hlexing⟩ | hrefused
  · rw [hok] at herror
    cases herror
  · rw [hlexing] at herror
    cases herror
    exact he'
  · rw [hrefused] at herror
    cases herror

theorem exists_message_of_neither (halone : ∀ raw, ¬ StandsAlone raw word.toList)
    (hrejected : ∀ e, ¬ IsFirstRejection (argumentFile word) e) :
    ∃ error, normalizeWord symbols word = .error error ∧
      error.message = s!"Validation error: `{word}` is not a single identifier" := by
  rcases normalizeWord_cases symbols word with ⟨raw, hraw, -⟩ | ⟨e, he, -⟩ | hrefused
  · exact absurd hraw (halone raw)
  · exact absurd he (hrejected e)
  · exact ⟨_, hrefused, rfl⟩

end Word

/-- How a word is judged: it is accepted with the name of the identifier that stands alone in it,
and it is refused with the error about the first character that is rejected, which is misplaced, or
as not being an identifier.  So all identifiers are accepted, and other words also, unless all that
stands alone in the word is the word. -/
structure IsJudged (symbols : SymbolTable) (word : String) : Prop where
  ok_iff : ∀ name symbols', normalizeWord symbols word = .ok (name, symbols') ↔
    ∃ raw, StandsAlone raw word.toList ∧
      (name, symbols') = symbols.intern (String.ofList (nfkc raw))
  textOf_eq : ∀ name symbols' raw, normalizeWord symbols word = .ok (name, symbols') →
    StandsAlone raw word.toList → symbols'.textOf name = String.ofList (nfkc raw)
  accepted : IsIdentifier word.toList → ∃ name symbols',
    normalizeWord symbols word = .ok (name, symbols') ∧
      symbols'.textOf name = String.ofList (nfkc word.toList)
  lexing_iff : ∀ e, normalizeWord symbols word = .error (.lexing e) ↔
    IsFirstRejection (argumentFile word) e
  isMisplaced : ∀ e, normalizeWord symbols word = .error (.lexing e) →
    ∃ front, IsMisplaced (argumentFile word) front e
  refused : (∀ raw, ¬ StandsAlone raw word.toList) →
    (∀ e, ¬ IsFirstRejection (argumentFile word) e) →
    ∃ error, normalizeWord symbols word = .error error ∧
      error.message = s!"Validation error: `{word}` is not a single identifier"
  only_identifiers_iff :
    ((∃ named, normalizeWord symbols word = .ok named) ↔ IsIdentifier word.toList) ↔
      ∀ raw, StandsAlone raw word.toList → raw = word.toList

/-- Each word is judged by the identifier that stands alone in it, or by the first character that is
rejected. -/
theorem normalizeWord_isJudged (symbols : SymbolTable) (word : String) : IsJudged symbols word where
  ok_iff name symbols' := by
    constructor
    · intro hok
      obtain ⟨raw, hraw⟩ := (exists_ok_iff symbols).1 ⟨_, hok⟩
      rw [normalizeWord_of_standsAlone symbols hraw] at hok
      exact ⟨raw, hraw, (Except.ok.inj hok).symm⟩
    · rintro ⟨raw, hraw, hnamed⟩
      rw [hnamed, normalizeWord_of_standsAlone symbols hraw]
  textOf_eq _ _ _ hok hraw := textOf_of_standsAlone symbols hok hraw
  accepted h := by
    have hok := normalizeWord_of_standsAlone symbols (standsAlone_self h)
    exact ⟨_, _, hok, textOf_of_standsAlone symbols hok (standsAlone_self h)⟩
  lexing_iff := lexing_iff_isFirstRejection symbols
  isMisplaced e herror := ((lexing_iff_isFirstRejection symbols e).1 herror).isMisplaced
  refused := exists_message_of_neither symbols
  only_identifiers_iff := by
    rw [exists_ok_iff]
    constructor
    · intro hiff raw hraw
      exact hraw.eq_of_isIdentifier (hiff.1 ⟨raw, hraw⟩)
    · refine fun hall => ⟨?_, fun h => ⟨_, standsAlone_self h⟩⟩
      rintro ⟨raw, hraw⟩
      exact hall raw hraw ▸ hraw.isIdentifier

/-- Blanks and a comment around an identifier are no part of one. -/
theorem normalizeWord_trivia :
    ∃ name symbols', normalizeWord {} " x # y" = .ok (name, symbols') ∧
      symbols'.textOf name = "x" ∧ ¬ IsIdentifier " x # y".toList := by
  have hraw : StandsAlone ['x'] " x # y".toList := by
    have hident : IsIdentifier ['x'] := ⟨'x', [], rfl, by decide, List.forall_mem_nil _⟩
    refine ⟨hident, [' '], " # y".toList, by decide, ?_, ?_⟩
    · exact List.forall_mem_singleton.2 (by decide)
    · exact .comment (List.forall_mem_singleton.2 (by decide)) (by decide) (by simp [AtLineEnd])
  have hform : String.ofList (nfkc ['x']) = "x" := by decide +kernel
  have hok := normalizeWord_of_standsAlone {} hraw
  have htext := textOf_of_standsAlone {} hok hraw
  rw [hform] at htext
  refine ⟨_, _, hok, htext, fun h => ?_⟩
  exact absurd (hraw.eq_of_isIdentifier h) (by decide)

end Lexicon
