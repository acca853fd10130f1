import Lexicon.Proofs.Lexer.Naming
import Mathlib.Data.List.Forall2

/-!
# Texts that stand elsewhere

A text keeps its tokens when it is moved within a file or to another one, and also when blanks are
put in front of all its line feeds (`fillLines`).  A `Relocation` says where its positions go: every
lexeme is moved by it, and a line feed begins behind the blanks put in front of it.

The segments of the text elsewhere are those of the text, put where the relocation says
(`Segmented.relocate`).  A run over them has the same outcome, relocated, under both policies
(`relates_tokenize`).
-/

namespace Lexicon

open Source Text Unicode

/-! ## Blanks in front of line feeds -/

/-- The text with `filler` in front of every line feed. -/
def fillLines (filler text : List Char) : List Char :=
  text.flatMap fun c => if c = '\n' then filler ++ ['\n'] else [c]

section FillLines

variable (filler : List Char)

theorem fillLines_append (a b : List Char) :
    fillLines filler (a ++ b) = fillLines filler a ++ fillLines filler b :=
  List.flatMap_append

theorem fillLines_newline (text : List Char) :
    fillLines filler ('\n' :: text) = filler ++ '\n' :: fillLines filler text := by
  rw [fillLines, List.flatMap_cons, if_pos rfl, List.append_assoc, List.singleton_append, fillLines]

theorem fillLines_cons_of_ne {c : Char} (hc : c ≠ '\n') (text : List Char) :
    fillLines filler (c :: text) = c :: fillLines filler text := by
  rw [fillLines, List.flatMap_cons, if_neg hc, List.singleton_append, fillLines]

theorem fillLines_of_notMem {text : List Char} (h : '\n' ∉ text) :
    fillLines filler text = text := by
  induction text with
  | nil => rfl
  | cons c text ih =>
    rw [List.mem_cons, not_or] at h
    rw [fillLines_cons_of_ne filler (Ne.symm h.1), ih h.2]

/-- Without blanks nothing changes. -/
theorem fillLines_nil (text : List Char) : fillLines [] text = text := by
  induction text with
  | nil => rfl
  | cons c text ih =>
    by_cases hc : c = '\n'
    · rw [hc, fillLines_newline, List.nil_append, ih]
    · rw [fillLines_cons_of_ne [] hc, ih]

variable {filler} (hfiller : ∀ c ∈ filler, isBlank c)
include hfiller

/-- The first character stays, but blanks may come in front of a line feed. -/
theorem head?_fillLines {text : List Char} {c : Char} (hc : c ∈ (fillLines filler text).head?) :
    c ∈ text.head? ∨ isBlank c ∧ text.head? = some '\n' := by
  cases text with
  | nil => cases hc
  | cons d text =>
    by_cases hd : d = '\n'
    · subst hd
      rw [fillLines_newline] at hc
      cases filler with
      | nil =>
        cases hc
        exact .inl rfl
      | cons =>
        cases hc
        exact .inr ⟨hfiller _ List.mem_cons_self, rfl⟩
    · rw [fillLines_cons_of_ne filler hd] at hc
      exact .inl hc

end FillLines

/-! ## Blanks behind lexemes -/

/-- A literal that stops at an underscore, since no digit follows, stops there if blanks follow. -/
theorem Numeral.Stops.fillLines {filler rest : List Char} (h : Stops rest)
    (hfiller : ∀ c ∈ filler, isBlank c) : Stops (fillLines filler rest) := by
  intro c r hc
  have hhead : c ∈ (Lexicon.fillLines filler rest).head? := by rw [hc]; rfl
  rcases head?_fillLines hfiller hhead with hhead | ⟨hblank, -⟩
  · obtain ⟨more, rfl⟩ := List.head?_eq_some_iff.1 hhead
    have hstops := h c more rfl
    by_cases hn : c = '\n'
    · subst hn
      rfl
    rw [fillLines_cons_of_ne filler hn, List.cons_eq_cons] at hc
    rw [← hc.2]
    simp only [continues, Bool.or_eq_false_iff, Bool.and_eq_false_imp, Option.any_eq_false]
      at hstops ⊢
    refine ⟨hstops.1, fun hunder d hd => ?_⟩
    rcases head?_fillLines hfiller hd with hd | ⟨hblank, -⟩
    · exact hstops.2 hunder d hd
    · exact isDigit_of_isBlank hblank
  · have hunder : c ≠ '_' := ne_of_apply_ne hblank (by decide)
    simp [continues, hunder, isDigit_of_isBlank hblank]

namespace Lexeme

/-- A lexeme within a line ends where it did. -/
theorem FollowedBy.fillLines {l : Lexeme} {filler rest : List Char} (h : l.FollowedBy rest)
    (hrejected : l.isRejected = false) (hfiller : ∀ c ∈ filler, isBlank c) :
    l.FollowedBy (fillLines filler rest) := by
  cases h with
  | ident h hr =>
    refine .ident h fun c hc => ?_
    rcases head?_fillLines hfiller hc with hc | ⟨hblank, -⟩
    · exact hr c hc
    · exact ⟨isIdentContinue_of_isBlank hblank, isAscii_of_isBlank hblank⟩
  | number h hr => exact .number h (hr.fillLines hfiller)
  | newline => exact .newline _
  | punct mark => exact .punct mark _
  | invalid h => exact .invalid h _
  | eof => exact .eof
  | rejected => cases hrejected

end Lexeme

/-! ## Relocations -/

/-- Where the positions of a text go when the text is put elsewhere, with `filler` in front of its
line feeds. -/
structure Relocation where
  /-- The file that the text is put into. -/
  file : FileId
  filler : List Char
  place : Position → Position
  isBlank_filler : ∀ c ∈ filler, isBlank c
  place_advance : ∀ (p : Position) (c : Char), c ≠ '\n' → place (p.advance c) = (place p).advance c
  place_newline : ∀ p : Position, 1 ≤ p.line →
    place (p.advance '\n') = (place p).advanceOver (filler ++ ['\n'])

theorem isBlank_of_mem_nil : ∀ c ∈ ([] : List Char), isBlank c := List.forall_mem_nil _

namespace Relocation

variable (r : Relocation)

def span (s : Span) : Span := ⟨r.place s.lo, r.place s.hi, r.file⟩

/-- Where the line feed goes that has the span `s`: it begins behind the blanks. -/
def lineFeed (s : Span) : Span := ⟨(r.place s.lo).advanceOver r.filler, r.place s.hi, r.file⟩

def token : NamedToken × Span → NamedToken × Span
  | (.ident name span, place) => (.ident name (r.span span), r.span place)
  | (.newline, place) => (.newline, r.lineFeed place)
  | (t, place) => (t, r.span place)

def report (d : Diagnostic) : Diagnostic := { d with span := r.span d.span }

def error (e : LexError) : LexError := { e with span := r.span e.span }

theorem place_advanceOver {p : Position} (hp : 1 ≤ p.line) (text : List Char) :
    r.place (p.advanceOver text) = (r.place p).advanceOver (fillLines r.filler text) := by
  induction text generalizing p with
  | nil => rfl
  | cons c text ih =>
    have hline : 1 ≤ (p.advance c).line := by
      rw [Position.line_advance]
      omega
    rw [Position.advanceOver_cons, ih hline]
    by_cases hc : c = '\n'
    · subst hc
      rw [r.place_newline p hp, fillLines_newline, ← Position.advanceOver_append,
        List.append_assoc, List.singleton_append]
    · rw [r.place_advance p c hc, fillLines_cons_of_ne _ hc, Position.advanceOver_cons]

/-- Within a line a text is moved as a whole. -/
theorem place_advanceOver_of_notMem {p : Position} {text : List Char} (hp : 1 ≤ p.line)
    (h : '\n' ∉ text) : r.place (p.advanceOver text) = (r.place p).advanceOver text := by
  rw [r.place_advanceOver hp, fillLines_of_notMem _ h]

/-- The segment `s'` is `s`, put where the relocation says.  Its gap may hold more blanks, and so
may the rest of a rejected line. -/
inductive Puts : Segment → Segment → Prop
  | newline {s s' : Segment} (hl : s.lexeme = .newline) (hl' : s'.lexeme = .newline)
    (hspan : s'.span = r.lineFeed s.span) : Puts s s'
  | rejected {s s' : Segment} {head tail tail' : List Char} {c : Char}
    (hl : s.lexeme = .rejected head c tail) (hl' : s'.lexeme = .rejected head c tail')
    (hspan : s'.charSpan head c = r.span (s.charSpan head c)) : Puts s s'
  | inLine {s s' : Segment} (hne : s.lexeme ≠ .newline) (hrejected : s.lexeme.isRejected = false)
    (hl : s'.lexeme = s.lexeme) (hspan : s'.span = r.span s.span) : Puts s s'

/-! ### What relocated segments yield -/

variable {r} {s s' : Segment} {segments segments' : List Segment}

theorem Puts.named?_eq (h : r.Puts s s') :
    s'.named?.map (·, s'.span) = (s.named?.map (·, s.span)).map r.token := by
  cases h with
  | newline hl hl' hspan =>
    simp only [Segment.named?, hl, hl', hspan]
    rfl
  | rejected hl hl' hspan =>
    simp only [Segment.named?, hl, hl']
    rfl
  | inLine hne hrejected hl hspan =>
    simp only [Segment.named?, hl, hspan]
    cases hlexeme : s.lexeme with
    | newline => exact absurd hlexeme hne
    | ident | number | punct | invalid | eof | rejected => rfl

theorem Puts.diagnostics_eq (h : r.Puts s s') (options : LexOptions) :
    s'.diagnostics options = (s.diagnostics options).map r.report := by
  cases h with
  | newline hl hl' hspan =>
    simp only [Segment.diagnostics, hl, hl']
    rfl
  | rejected hl hl' hspan =>
    simp only [Segment.diagnostics, hl, hl', hspan]
    rfl
  | inLine hne hrejected hl hspan =>
    simp only [Segment.diagnostics, hl, hspan]
    cases hlexeme : s.lexeme with
    | ident raw =>
      simp only
      split_ifs <;> rfl
    | number literal =>
      simp only
      split_ifs <;> rfl
    | rejected head c tail =>
      rw [hlexeme] at hrejected
      cases hrejected
    | newline | punct | invalid | eof => rfl

theorem Puts.isRejected_eq (h : r.Puts s s') : s'.lexeme.isRejected = s.lexeme.isRejected := by
  cases h with
  | newline hl hl' hspan => rw [hl, hl']
  | rejected hl hl' hspan =>
    rw [hl, hl']
    rfl
  | inLine hne hrejected hl hspan => rw [hl]

/-- A rejected character stays the same. -/
theorem Puts.exists_rejected {head tail : List Char} {c : Char} (h : r.Puts s s')
    (hs : s.lexeme = .rejected head c tail) :
    ∃ tail', s'.lexeme = .rejected head c tail' ∧
      s'.charSpan head c = r.span (s.charSpan head c) := by
  cases h with
  | newline hl hl' hspan =>
    rw [hs] at hl
    cases hl
  | rejected hl hl' hspan =>
    rw [hs] at hl
    cases hl
    exact ⟨_, hl', hspan⟩
  | inLine hne hrejected hl hspan =>
    rw [hs] at hrejected
    cases hrejected

theorem Puts.withGap (h : r.Puts s s') (gap : List Char) : r.Puts s { s' with gap } := by
  cases h with
  | newline hl hl' hspan => exact .newline hl hl' hspan
  | rejected hl hl' hspan => exact .rejected hl hl' hspan
  | inLine hne hrejected hl hspan => exact .inLine hne hrejected hl hspan

theorem namedOf_of_puts (h : List.Forall₂ r.Puts segments segments') :
    Segment.namedOf segments' = (Segment.namedOf segments).map r.token := by
  induction h with
  | nil => rfl
  | @cons s s' _ _ hs _ ih =>
    rw [Segment.namedOf_cons, Segment.namedOf_cons, List.map_append, ih, hs.named?_eq]
    cases s.named? <;> rfl

theorem diagnosticsOf_of_puts (h : List.Forall₂ r.Puts segments segments')
    (options : LexOptions) :
    Segment.diagnosticsOf options segments' =
      (Segment.diagnosticsOf options segments).map r.report := by
  induction h with
  | nil => rfl
  | cons hs _ ih =>
    rw [Segment.diagnosticsOf_cons, Segment.diagnosticsOf_cons, List.map_append, ih,
      hs.diagnostics_eq]

theorem forall_isRejected_of_puts (h : List.Forall₂ r.Puts segments segments')
    (hsegments : ∀ s ∈ segments, s.lexeme.isRejected = false) :
    ∀ s' ∈ segments', s'.lexeme.isRejected = false := by
  induction h with
  | nil => exact hsegments
  | cons hs _ ih =>
    rw [List.forall_mem_cons] at hsegments ⊢
    exact ⟨hs.isRejected_eq.trans hsegments.1, ih hsegments.2⟩

theorem exists_of_puts_append {before after : List Segment}
    (h : List.Forall₂ r.Puts (before ++ s :: after) segments') :
    ∃ before' s' after', segments' = before' ++ s' :: after' ∧
      List.Forall₂ r.Puts before before' ∧ r.Puts s s' := by
  induction before generalizing segments' with
  | nil =>
    obtain ⟨s', after', hs, -, rfl⟩ := List.forall₂_cons_left_iff.1 h
    exact ⟨[], s', after', rfl, .nil, hs⟩
  | cons t before ih =>
    obtain ⟨t', more, ht, hmore, rfl⟩ := List.forall₂_cons_left_iff.1 h
    obtain ⟨before', s', after', rfl, hbefore, hs⟩ := ih hmore
    exact ⟨t' :: before', s', after', rfl, .cons ht hbefore, hs⟩

end Relocation

/-! ## Segments -/

/-- More blanks at the end of a line belong to the gap there. -/
theorem IsTrivia.append_blanks {gap blanks rest rest' : List Char} (h : IsTrivia gap rest)
    (hb : ∀ c ∈ blanks, isBlank c) (hr : AtLineEnd rest') : IsTrivia (gap ++ blanks) rest' := by
  cases h with
  | blanks h =>
    refine .blanks fun c hc => ?_
    rcases List.mem_append.1 hc with hc | hc
    · exact h c hc
    · exact hb c hc
  | comment h hbody hend =>
    rw [List.append_assoc, List.cons_append]
    refine .comment h (fun hn => ?_) hr
    rcases List.mem_append.1 hn with hn | hn
    · exact hbody hn
    · exact absurd (hb _ hn) (by decide)

/-- What is put in front of the end of a line is blank. -/
theorem AtLineEnd.exists_fillLines {filler rest : List Char} (h : AtLineEnd rest)
    (hfiller : ∀ c ∈ filler, isBlank c) :
    ∃ blanks rest', fillLines filler rest = blanks ++ rest' ∧ (∀ c ∈ blanks, isBlank c) ∧
      AtLineEnd rest' := by
  cases rest with
  | nil => exact ⟨[], [], rfl, nofun, nofun⟩
  | cons c rest =>
    obtain rfl := h c rfl
    refine ⟨filler, '\n' :: fillLines filler rest, fillLines_newline filler rest, hfiller, ?_⟩
    rintro _ ⟨⟩
    rfl

open Relocation

namespace Segmented

variable {file : FileId} {p : Position} {text : List Char} {segments : List Segment}

/-- The first blank of a text belongs to the gap of its first segment, and may be left out. -/
theorem exists_of_isBlank {b : Char} (hb : isBlank b)
    (h : Segmented file p (b :: text) segments) :
    ∃ s more gap, segments = s :: more ∧
      Segmented file (p.advance b) text ({ s with gap } :: more) := by
  have htail : ∀ {gap rest : List Char}, IsTrivia (b :: gap) rest → IsTrivia gap rest := by
    intro gap rest hg
    generalize hgap : b :: gap = gap' at hg
    cases hg with
    | blanks hblanks => exact .blanks fun c hc => hblanks c (hgap ▸ List.mem_cons_of_mem b hc)
    | @comment blanks body _ hblanks hbody hend =>
      cases blanks with
      | nil =>
        obtain ⟨rfl, -⟩ := List.cons_eq_cons.1 hgap
        exact absurd hb (by decide)
      | cons d blanks =>
        obtain ⟨-, rfl⟩ := List.cons_eq_cons.1 hgap
        exact .comment (fun c hc => hblanks c (List.mem_cons_of_mem d hc)) hbody hend
  cases h with
  | eof hg => exact ⟨_, [], text, rfl, .eof (htail hg)⟩
  | @cons _ _ gap rest l more ht hg hl hne h =>
    cases gap with
    | nil =>
      have hhead : b ∈ (l.spelling ++ rest).head? := by rw [← List.nil_append (_ ++ _), ← ht]; rfl
      rw [(hl.atLexeme b hhead).1] at hb
      cases hb
    | cons d gap =>
      obtain ⟨rfl, rfl⟩ := List.cons_eq_cons.1 ht
      exact ⟨_, more, gap, rfl, .cons rfl (htail hg) hl hne h⟩

theorem exists_of_forall_isBlank {blanks : List Char} (hb : ∀ c ∈ blanks, isBlank c)
    (h : Segmented file p (blanks ++ text) segments) :
    ∃ s more gap, segments = s :: more ∧
      Segmented file (p.advanceOver blanks) text ({ s with gap } :: more) := by
  induction blanks generalizing p segments with
  | nil =>
    obtain ⟨s, more, rfl⟩ := List.exists_cons_of_ne_nil h.ne_nil
    exact ⟨s, more, s.gap, rfl, h⟩
  | cons b blanks ih =>
    rw [List.forall_mem_cons] at hb
    obtain ⟨s, more, gap, rfl, hrest⟩ := exists_of_isBlank hb.1 h
    obtain ⟨s', more', gap', heq, hrest⟩ := ih hb.2 hrest
    obtain ⟨rfl, rfl⟩ := List.cons_eq_cons.1 heq
    exact ⟨s, more, gap', rfl, hrest⟩

section Step

variable {r : Relocation} {gap rest : List Char} {l : Lexeme} {segments' : List Segment}
  (hp : 1 ≤ p.line) (hg : IsTrivia gap (l.spelling ++ rest))
  (h : Segmented r.file (r.place (p.advanceOver (gap ++ l.spelling))) (fillLines r.filler rest)
    segments')
  (hputs : List.Forall₂ r.Puts segments segments')
include hp hg h hputs

/-- The blanks in front of a line feed lengthen the gap in front of it. -/
theorem relocate_newline (hl : l = .newline) :
    ∃ segments', Segmented r.file (r.place p) (fillLines r.filler (gap ++ (l.spelling ++ rest)))
        segments' ∧
      List.Forall₂ r.Puts (.place file p gap l :: segments) segments' := by
  subst hl
  have hgap := fillLines_of_notMem r.filler hg.newline_notMem
  have htrivia : IsTrivia (gap ++ r.filler) ('\n' :: fillLines r.filler rest) := by
    refine hg.append_blanks r.isBlank_filler ?_
    rintro _ ⟨⟩
    rfl
  have hline : fillLines r.filler (gap ++ ['\n']) = gap ++ r.filler ++ ['\n'] := by
    rw [fillLines_append, hgap, fillLines_newline, List.append_assoc]
    rfl
  rw [Lexeme.spelling, r.place_advanceOver hp, hline] at h
  rw [Lexeme.spelling, List.singleton_append, fillLines_append, hgap, fillLines_newline,
    ← List.append_assoc]
  refine ⟨_, .cons rfl htrivia (.newline _) Lexeme.noConfusion h, .cons (.newline rfl rfl ?_) hputs⟩
  simp only [Segment.place, Lexeme.spelling, lineFeed, r.place_advanceOver hp, hgap, hline,
    ← Position.advanceOver_append]

/-- The blanks in front of a line feed lengthen the rest of a rejected line, which is skipped. -/
theorem relocate_rejected {head tail : List Char} {c : Char} (hl : l.FollowedBy rest)
    (hrejected : l = .rejected head c tail) :
    ∃ segments', Segmented r.file (r.place p) (fillLines r.filler (gap ++ (l.spelling ++ rest)))
        segments' ∧
      List.Forall₂ r.Puts (.place file p gap l :: segments) segments' := by
  have htext : '\n' ∉ gap ++ l.spelling := by
    rw [List.mem_append, not_or]
    exact ⟨hg.newline_notMem, hl.newline_notMem (by rw [hrejected]; exact Lexeme.noConfusion)⟩
  subst hrejected
  cases hl with
  | rejected hhead hc htail hr =>
    obtain ⟨blanks, rest', hfill, hblanks, hend⟩ := hr.exists_fillLines r.isBlank_filler
    have htail' : '\n' ∉ tail ++ blanks := by
      rw [List.mem_append, not_or]
      exact ⟨htail, fun hn => absurd (hblanks _ hn) (by decide)⟩
    have hspelling : (Lexeme.rejected head c tail).spelling ++ (blanks ++ rest') =
        (Lexeme.rejected head c (tail ++ blanks)).spelling ++ rest' := by
      simp only [Lexeme.spelling, List.append_assoc, List.cons_append]
    have htrivia : IsTrivia gap ((Lexeme.rejected head c (tail ++ blanks)).spelling ++ rest') := by
      refine hg.congr ?_
      cases head <;> rfl
    rw [r.place_advanceOver_of_notMem hp htext, hfill] at h
    obtain ⟨s, more, gap', rfl, hmore⟩ := exists_of_forall_isBlank hblanks h
    obtain ⟨t, later, hs, hlater, rfl⟩ := List.forall₂_cons_right_iff.1 hputs
    rw [← Position.advanceOver_append] at hmore
    rw [← List.append_assoc, fillLines_append, fillLines_of_notMem _ htext, hfill,
      List.append_assoc, hspelling]
    refine ⟨_, .cons rfl htrivia (.rejected hhead hc htail' hend) Lexeme.noConfusion ?_,
      .cons (.rejected rfl rfl ?_) (.cons (hs.withGap gap') hlater)⟩
    · simpa only [Lexeme.spelling, List.append_assoc, List.cons_append] using hmore
    · have hchar : '\n' ∉ gap ++ (head ++ [c]) := by
        refine fun hn => htext ?_
        rw [Lexeme.spelling, List.append_cons, ← List.append_assoc]
        exact List.mem_append_left tail hn
      have hhead : '\n' ∉ gap ++ head := by
        refine fun hn => hchar ?_
        rw [← List.append_assoc]
        exact List.mem_append_left [c] hn
      simp only [Segment.charSpan, Segment.place, Relocation.span, ← Position.advanceOver_append,
        r.place_advanceOver_of_notMem hp hchar, r.place_advanceOver_of_notMem hp hhead]

/-- Any other lexeme stays as it is. -/
theorem relocate_inLine (hl : l.FollowedBy rest) (hne : l ≠ .eof) (hnewline : l ≠ .newline)
    (hrejected : l.isRejected = false) :
    ∃ segments', Segmented r.file (r.place p) (fillLines r.filler (gap ++ (l.spelling ++ rest)))
        segments' ∧
      List.Forall₂ r.Puts (.place file p gap l :: segments) segments' := by
  have htext : '\n' ∉ gap ++ l.spelling := by
    rw [List.mem_append, not_or]
    exact ⟨hg.newline_notMem, hl.newline_notMem hnewline⟩
  have htrivia : IsTrivia gap (l.spelling ++ fillLines r.filler rest) := by
    obtain ⟨c, spelling, hc⟩ := List.exists_cons_of_ne_nil (hl.spelling_ne_nil hne)
    refine hg.congr ?_
    rw [hc]
    rfl
  rw [r.place_advanceOver_of_notMem hp htext] at h
  rw [← List.append_assoc, fillLines_append, fillLines_of_notMem _ htext, List.append_assoc]
  refine ⟨_, .cons rfl htrivia (hl.fillLines hrejected r.isBlank_filler) hne h,
    .cons (.inLine hnewline hrejected rfl ?_) hputs⟩
  simp only [Segment.place, Relocation.span, r.place_advanceOver_of_notMem hp htext,
    r.place_advanceOver_of_notMem hp hg.newline_notMem]

end Step

/-- Elsewhere a text has the same segments, put where they go. -/
theorem relocate (r : Relocation) (h : Segmented file p text segments) (hp : 1 ≤ p.line) :
    ∃ segments', Segmented r.file (r.place p) (fillLines r.filler text) segments' ∧
      List.Forall₂ r.Puts segments segments' := by
  induction h with
  | @eof p text hg =>
    have hn := hg.newline_notMem
    rw [fillLines_of_notMem _ hn]
    refine ⟨_, .eof hg, .cons (.inLine Lexeme.noConfusion rfl rfl ?_) .nil⟩
    simp only [Segment.place, Lexeme.spelling, List.append_nil, Relocation.span,
      r.place_advanceOver_of_notMem hp hn]
  | @cons p text gap rest l segments ht hg hl hne h ih =>
    subst ht
    have hline : 1 ≤ (p.advanceOver (gap ++ l.spelling)).line := by
      rw [Position.line_advanceOver]
      omega
    obtain ⟨segments', h', hputs⟩ := ih hline
    by_cases hnewline : l = .newline
    · exact relocate_newline hp hg h' hputs hnewline
    cases hrejected : l.isRejected with
    | false => exact relocate_inLine hp hg h' hputs hl hne hnewline hrejected
    | true =>
      obtain ⟨head, c, tail, hl'⟩ := Segment.exists_eq_rejected hrejected
      exact relocate_rejected hp hg h' hputs hl hl'

end Segmented

/-! ## Runs -/

/-- The outcome of a run over a relocated text: the same reports behind those of the logs, and the
same tokens or the same error, all relocated. -/
structure Relocation.Relates (r : Relocation) (log log' : DiagnosticLog)
    (run run' : Except LexError (Array SpannedToken) × Lexer) : Prop where
  reports : ∃ reports, run.2.log = log.emitAll reports ∧
    run'.2.log = log'.emitAll (reports.map r.report)
  result :
    (∃ tokens tokens', run.1 = .ok tokens ∧ run'.1 = .ok tokens' ∧
      tokens'.toList.map (·.named run'.2.symbols) =
        (tokens.toList.map (·.named run.2.symbols)).map r.token) ∨
    ∃ e, run.1 = .error e ∧ run'.1 = .error (r.error e)

section Runs

variable {r : Relocation} {file file' : SourceFile} {segments segments' : List Segment}
  (h : SegmentsOf file segments) (h' : SegmentsOf file' segments')
  (hputs : List.Forall₂ r.Puts segments segments') (options : LexOptions)
  (symbols symbols' : SymbolTable) (log log' : DiagnosticLog)
include h h' hputs

theorem relates_skipLine :
    r.Relates log log' (tokenize file options .skipLine symbols log)
      (tokenize file' options .skipLine symbols' log') := by
  obtain ⟨lx, hrun, hsymbols, hlog⟩ := tokenize_skipLine options symbols log h
  obtain ⟨lx', hrun', hsymbols', hlog'⟩ := tokenize_skipLine options symbols' log' h'
  rw [diagnosticsOf_of_puts hputs] at hlog'
  rw [hrun, hrun']
  refine ⟨⟨_, hlog, hlog'⟩, .inl ⟨_, _, rfl, rfl, ?_⟩⟩
  simp only
  rw [Segment.map_named_tokensOf (hsymbols' ▸ SymbolTable.extends_refl _),
    Segment.map_named_tokensOf (hsymbols ▸ SymbolTable.extends_refl _), namedOf_of_puts hputs]

theorem relates_abort (hname : file'.name = file.name) :
    r.Relates log log' (tokenize file options .abort symbols log)
      (tokenize file' options .abort symbols' log') := by
  rcases Segment.forall_or_exists_rejected segments with
    hs | ⟨before, s, after, head, c, tail, rfl, hbefore, hs⟩
  · rw [tokenize_abort_eq options symbols log h hs,
      tokenize_abort_eq options symbols' log' h' (forall_isRejected_of_puts hputs hs)]
    exact relates_skipLine h h' hputs options symbols symbols' log log'
  · obtain ⟨before', s', after', rfl, hputs', hput⟩ := exists_of_puts_append hputs
    obtain ⟨tail', hs', hspan⟩ := hput.exists_rejected hs
    obtain ⟨lx, hrun, hlog⟩ := tokenize_abort_eq_error options symbols log h hbefore hs
    obtain ⟨lx', hrun', hlog'⟩ := tokenize_abort_eq_error options symbols' log' h'
      (forall_isRejected_of_puts hputs' hbefore) hs'
    rw [diagnosticsOf_of_puts hputs'] at hlog'
    rw [hspan, hname] at hrun'
    rw [hrun, hrun']
    exact ⟨⟨_, hlog, hlog'⟩, .inr ⟨_, rfl, rfl⟩⟩

/-- A run over a relocated text has the relocated outcome. -/
theorem relates_tokenize (policy : RecoveryPolicy) (hname : file'.name = file.name) :
    r.Relates log log' (tokenize file options policy symbols log)
      (tokenize file' options policy symbols' log') := by
  cases policy with
  | skipLine => exact relates_skipLine h h' hputs options symbols symbols' log log'
  | abort => exact relates_abort h h' hputs options symbols symbols' log log' hname

end Runs

end Lexicon
