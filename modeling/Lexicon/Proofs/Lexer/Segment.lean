import Lexicon.Lexer.Basic
import Lexicon.Proofs.Lexer.Numeral
import Lexicon.Proofs.Source.Position
import Mathlib.Data.List.TakeWhile

/-!
# Segments of a text

A text falls into segments: each is a gap of blanks and a comment, and a lexeme behind it.  Besides
the spellings of tokens, the rest of a line from an identifier that cannot go on is a lexeme, which
yields no token.  `Lexeme.FollowedBy` is the grammar of lexemes, `Segmented` that of texts.

Every text has segments (`exists_segmented`).  The segments of whole lines stay the same when more
text follows (`Segmented.append`), and when the lines stand further down or in another file
(`Segmented.moveTo`).
-/

namespace Lexicon

open Source Text Unicode

/-! ## Classes of characters -/

theorem isIdentStart_of_isAscii {c : Char} (h : isAscii c) :
    isIdentStart c = isAsciiIdentStart c := by
  unfold isIdentStart CharClass.of
  rw [if_pos h]
  split_ifs <;> simp_all

/-- What holds of the four blanks holds of all. -/
theorem apply_of_isBlank {p : Char → Bool} {c : Char} (h : isBlank c)
    (hp : [' ', '\t', '\r', '\x0c'].all p) : p c := by
  rw [List.all_eq_true] at hp
  simp only [isBlank, Bool.or_eq_true, beq_iff_eq] at h
  rcases h with ((rfl | rfl) | rfl) | rfl <;> exact hp _ (by simp)

theorem isAscii_of_isBlank {c : Char} (h : isBlank c) : isAscii c :=
  apply_of_isBlank h (by decide)

theorem isIdentContinue_of_isBlank {c : Char} (h : isBlank c) : isIdentContinue c = false := by
  simpa using apply_of_isBlank (p := fun d => !isIdentContinue d) h (by decide)

theorem isDigit_of_isBlank {c : Char} (h : isBlank c) : c.isDigit = false := by
  simpa using apply_of_isBlank (p := fun d => !d.isDigit) h (by decide)

theorem isBlank_of_not_isAscii {c : Char} (h : isAscii c = false) : isBlank c = false := by
  by_contra hb
  rw [isAscii_of_isBlank (by simpa using hb)] at h
  cases h

theorem isBlank_of_isIdentStart {c : Char} (h : isIdentStart c) : isBlank c = false := by
  by_contra hb
  have hc := isIdentContinue_of_isIdentStart h
  rw [isIdentContinue_of_isBlank (by simpa using hb)] at hc
  cases hc

theorem isBlank_of_isDigit {c : Char} (h : c.isDigit) : isBlank c = false := by
  by_contra hb
  rw [isDigit_of_isBlank (by simpa using hb)] at h
  cases h

theorem toNat_of_isDigit {c : Char} (h : c.isDigit) : 48 ≤ c.toNat ∧ c.toNat ≤ 57 :=
  Char.isDigit_iff_toNat.1 h

theorem isAscii_of_isDigit {c : Char} (h : c.isDigit) : isAscii c := by
  have := toNat_of_isDigit h
  rw [isAscii, decide_eq_true_eq]
  omega

theorem isAsciiIdentStart_of_isDigit {c : Char} (h : c.isDigit) :
    isAsciiIdentStart c = false := by
  have hle := (toNat_of_isDigit h).2
  have hletter : c.isAlpha = false := by
    by_contra ha
    rcases Bool.or_eq_true_iff.1 (Bool.of_not_eq_false ha) with hu | hl
    · have hupper : 'A'.val ≤ c.val ∧ c.val ≤ 'Z'.val := of_decide_eq_true hu
      have : 65 ≤ c.toNat := UInt32.le_iff_toNat_le.1 hupper.1
      omega
    · have hlower : 'a'.val ≤ c.val := of_decide_eq_true (Bool.and_eq_true_iff.1 hl).1
      have : 97 ≤ c.toNat := UInt32.le_iff_toNat_le.1 hlower
      omega
  have hunder : (c == '_') = false := by
    rw [beq_eq_false_iff_ne]
    rintro rfl
    exact absurd h (by decide)
  rw [isAsciiIdentStart, hletter, hunder, Bool.or_false]

theorem isIdentStart_of_isDigit {c : Char} (h : c.isDigit) : isIdentStart c = false := by
  rw [isIdentStart_of_isAscii (isAscii_of_isDigit h), isAsciiIdentStart_of_isDigit h]

theorem isIdentStart_byteOrderMark : isIdentStart '\uFEFF' = false := by decide +kernel

/-- Two characters that a predicate tells apart. -/
theorem ne_of_apply_ne {p : Char → Bool} {c d : Char} (hc : p c) (hd : p d = false) : c ≠ d := by
  rintro rfl
  rw [hc] at hd
  cases hd

/-- A character that starts an identifier, and characters that continue it. -/
def IsIdentifier (raw : List Char) : Prop :=
  ∃ c rest, raw = c :: rest ∧ isIdentStart c ∧ ∀ d ∈ rest, isIdentContinue d

theorem IsIdentifier.isIdentStart {c : Char} {rest : List Char} (h : IsIdentifier (c :: rest)) :
    Unicode.isIdentStart c := by
  obtain ⟨d, more, hd, hstart, -⟩ := h
  obtain ⟨rfl, -⟩ := List.cons_eq_cons.1 hd
  exact hstart

theorem IsIdentifier.forall_isIdentContinue {raw : List Char} (h : IsIdentifier raw) :
    ∀ c ∈ raw, isIdentContinue c := by
  obtain ⟨c, rest, rfl, hc, hrest⟩ := h
  intro d hd
  rcases List.mem_cons.1 hd with rfl | hd
  · exact isIdentContinue_of_isIdentStart hc
  · exact hrest d hd

theorem IsIdentifier.newline_notMem {raw : List Char} (h : IsIdentifier raw) : '\n' ∉ raw :=
  fun hmem => absurd (h.forall_isIdentContinue _ hmem) (by decide)

theorem newline_notMem_of_isIdentifier {head : List Char} (h : head = [] ∨ IsIdentifier head) :
    '\n' ∉ head := by
  rcases h with rfl | h
  · exact List.not_mem_nil
  · exact h.newline_notMem

/-! ## Runs of characters -/

theorem head?_dropWhile_eq_false {p : Char → Bool} {text : List Char} {c : Char}
    (h : c ∈ (text.dropWhile p).head?) : p c = false := by
  have := List.head?_dropWhile_not p text
  rw [Option.mem_def.1 h] at this
  simpa using this

theorem takeWhile_append_of_stop {p : Char → Bool} {run rest : List Char} (h : ∀ c ∈ run, p c)
    (hr : ∀ c ∈ rest.head?, p c = false) : (run ++ rest).takeWhile p = run := by
  rw [List.takeWhile_append_of_pos h]
  cases rest with
  | nil => simp
  | cons c rest => rw [List.takeWhile_cons_of_neg (by simp [hr c rfl]), List.append_nil]

theorem dropWhile_append_of_stop {p : Char → Bool} {run rest : List Char} (h : ∀ c ∈ run, p c)
    (hr : ∀ c ∈ rest.head?, p c = false) : (run ++ rest).dropWhile p = rest := by
  rw [List.dropWhile_append_of_pos h]
  cases rest with
  | nil => rfl
  | cons c rest => rw [List.dropWhile_cons_of_neg (by simp [hr c rfl])]

/-- What is left at the end of a line, or of the text. -/
def AtLineEnd (rest : List Char) : Prop := ∀ c ∈ rest.head?, c = '\n'

theorem AtLineEnd.eq_nil {a b : List Char} (h : AtLineEnd (a ++ b)) (ha : '\n' ∉ a) : a = [] := by
  cases a with
  | nil => rfl
  | cons c a =>
    obtain rfl := h c rfl
    exact absurd List.mem_cons_self ha

theorem atLineEnd_dropWhile (text : List Char) : AtLineEnd (text.dropWhile (· != '\n')) := by
  intro c hc
  simpa using head?_dropWhile_eq_false hc

theorem newline_notMem_takeWhile (text : List Char) : '\n' ∉ text.takeWhile (· != '\n') := by
  intro h
  exact absurd (List.mem_takeWhile_imp h) (by decide)

/-- A character that begins neither a blank nor a comment, or the end of the text. -/
def AtLexeme (rest : List Char) : Prop := ∀ c ∈ rest.head?, isBlank c = false ∧ c ≠ '#'

/-! ## Trivia -/

/-- `gap` in front of `rest` holds blanks and, behind them, possibly a comment, which takes up the
rest of its line. -/
inductive IsTrivia : List Char → List Char → Prop
  | blanks {gap rest : List Char} (h : ∀ c ∈ gap, isBlank c) : IsTrivia gap rest
  | comment {blanks body rest : List Char} (h : ∀ c ∈ blanks, isBlank c) (hb : '\n' ∉ body)
    (hr : AtLineEnd rest) : IsTrivia (blanks ++ '#' :: body) rest

theorem isBlank_newline : isBlank '\n' = false := by decide

theorem IsTrivia.newline_notMem {gap rest : List Char} (h : IsTrivia gap rest) : '\n' ∉ gap := by
  have hne : ∀ {l : List Char}, (∀ c ∈ l, isBlank c) → '\n' ∉ l :=
    fun hl hmem => absurd (hl _ hmem) (by decide)
  cases h with
  | blanks h => exact hne h
  | comment h hb hr => simp [hne h, hb]

/-- Only the first character behind the gap counts. -/
theorem IsTrivia.congr {gap rest rest' : List Char} (h : IsTrivia gap rest)
    (he : rest'.head? = rest.head?) : IsTrivia gap rest' := by
  cases h with
  | blanks h => exact .blanks h
  | comment h hb hr => exact .comment h hb (by rwa [AtLineEnd, he])

/-- In front of a character within a line a gap is only blanks. -/
theorem IsTrivia.forall_isBlank {gap rest : List Char} (h : IsTrivia gap rest)
    (hr : ¬ AtLineEnd rest) : ∀ c ∈ gap, isBlank c := by
  cases h with
  | blanks h => exact h
  | comment h hb hend => exact absurd hend hr

/-- Blanks in front of a lexeme are all of the gap. -/
theorem IsTrivia.eq_of_append_eq {gap blanks rest rest' : List Char} (h : IsTrivia gap rest)
    (hr : AtLexeme rest) (hb : ∀ c ∈ blanks, isBlank c) (hr' : AtLexeme rest')
    (he : gap ++ rest = blanks ++ rest') : gap = blanks ∧ rest = rest' := by
  have htake : (blanks ++ rest').takeWhile isBlank = blanks :=
    takeWhile_append_of_stop hb fun c hc => (hr' c hc).1
  have hdrop : (blanks ++ rest').dropWhile isBlank = rest' :=
    dropWhile_append_of_stop hb fun c hc => (hr' c hc).1
  cases h with
  | blanks h =>
    rw [← he] at htake hdrop
    rw [takeWhile_append_of_stop h fun c hc => (hr c hc).1] at htake
    rw [dropWhile_append_of_stop h fun c hc => (hr c hc).1] at hdrop
    exact ⟨htake, hdrop⟩
  | @comment blanks' body _ h hbody hend =>
    have hhash : ∀ c ∈ ('#' :: body ++ rest).head?, isBlank c = false := by
      rintro _ ⟨⟩
      decide
    rw [← he, List.append_assoc, dropWhile_append_of_stop h hhash] at hdrop
    have hhead : '#' ∈ rest'.head? := by rw [← hdrop]; rfl
    exact absurd rfl (hr' _ hhead).2

theorem exists_trivia (text : List Char) :
    ∃ gap rest, text = gap ++ rest ∧ IsTrivia gap rest ∧ AtLexeme rest := by
  have hblanks : ∀ c ∈ text.takeWhile isBlank, isBlank c := fun c => List.mem_takeWhile_imp
  have htext : text.takeWhile isBlank ++ text.dropWhile isBlank = text :=
    List.takeWhile_append_dropWhile
  by_cases hhash : (text.dropWhile isBlank).head? = some '#'
  · obtain ⟨comment, hc⟩ := List.head?_eq_some_iff.1 hhash
    refine ⟨text.takeWhile isBlank ++ '#' :: comment.takeWhile (· != '\n'),
      comment.dropWhile (· != '\n'), ?_,
      .comment hblanks (newline_notMem_takeWhile _) (atLineEnd_dropWhile _), ?_⟩
    · rw [List.append_assoc, List.cons_append, List.takeWhile_append_dropWhile, ← hc, htext]
    · intro c hc
      obtain rfl := atLineEnd_dropWhile comment c hc
      exact ⟨isBlank_newline, by decide⟩
  · refine ⟨text.takeWhile isBlank, text.dropWhile isBlank, htext.symm, .blanks hblanks, ?_⟩
    intro c hc
    refine ⟨head?_dropWhile_eq_false hc, ?_⟩
    rintro rfl
    exact hhash hc

/-! ## Lexemes -/

/-- What stands in a text behind a gap. -/
inductive Lexeme where
  | ident (raw : List Char)
  | number (literal : List Char)
  | newline
  | punct (mark : Punctuation)
  | invalid (c : Char)
  | eof
  /-- An identifier, possibly empty, the character that it cannot go on with, and the rest of the
  line. -/
  | rejected (head : List Char) (c : Char) (tail : List Char)
  deriving DecidableEq

/-- An ASCII character that starts no token. -/
structure IsStray (c : Char) : Prop where
  isAscii : isAscii c
  ne_newline : c ≠ '\n'
  ne_hash : c ≠ '#'
  ofChar?_eq_none : Punctuation.ofChar? c = none
  isBlank_eq_false : isBlank c = false
  isDigit_eq_false : c.isDigit = false
  isIdentStart_eq_false : isIdentStart c = false

namespace Lexeme

def spelling : Lexeme → List Char
  | ident raw => raw
  | number literal => literal
  | newline => ['\n']
  | punct mark => [mark.char]
  | invalid c => [c]
  | eof => []
  | rejected head c tail => head ++ c :: tail

/-- Whether the lexeme yields no token. -/
def isRejected : Lexeme → Bool
  | rejected _ _ _ => true
  | _ => false

/-- The lexeme is spelled as its class asks for, and it ends where `rest` follows. -/
inductive FollowedBy : Lexeme → List Char → Prop
  | ident {raw rest : List Char} (h : IsIdentifier raw)
    (hr : ∀ c ∈ rest.head?, isIdentContinue c = false ∧ isAscii c) : FollowedBy (ident raw) rest
  | number {literal rest : List Char} (h : Numeral.IsLiteral literal) (hr : Numeral.Stops rest) :
    FollowedBy (number literal) rest
  | newline (rest : List Char) : FollowedBy newline rest
  | punct (mark : Punctuation) (rest : List Char) : FollowedBy (punct mark) rest
  | invalid {c : Char} (h : IsStray c) (rest : List Char) : FollowedBy (invalid c) rest
  | eof : FollowedBy eof []
  | rejected {head tail rest : List Char} {c : Char}
    (h : head = [] ∧ isIdentStart c = false ∨ IsIdentifier head ∧ isIdentContinue c = false)
    (hc : isAscii c = false) (ht : '\n' ∉ tail) (hr : AtLineEnd rest) :
    FollowedBy (rejected head c tail) rest

variable {l : Lexeme} {rest : List Char}

theorem FollowedBy.spelling_ne_nil (h : l.FollowedBy rest) (hl : l ≠ .eof) : l.spelling ≠ [] := by
  cases h with
  | ident h hr =>
    obtain ⟨c, raw, rfl, -⟩ := h
    exact List.cons_ne_nil _ _
  | number h hr =>
    obtain ⟨c, literal, rfl, -⟩ := h.exists_cons
    exact List.cons_ne_nil _ _
  | eof => exact absurd rfl hl
  | newline | punct | invalid | rejected => simp [spelling]

theorem ne_newline_of_not_isAscii {c : Char} (h : isAscii c = false) : c ≠ '\n' := by
  rintro rfl
  exact absurd h (by decide)

theorem FollowedBy.newline_notMem (h : l.FollowedBy rest) (hl : l ≠ .newline) :
    '\n' ∉ l.spelling := by
  cases h with
  | ident h hr => exact h.newline_notMem
  | number h hr => exact h.newline_notMem
  | newline => exact absurd rfl hl
  | punct mark => cases mark <;> decide
  | invalid h => simpa [spelling] using Ne.symm h.ne_newline
  | eof => exact List.not_mem_nil
  | rejected h hc ht hr =>
    have hhead := newline_notMem_of_isIdentifier (h.imp And.left And.left)
    simp [spelling, hhead, ht, Ne.symm (ne_newline_of_not_isAscii hc)]

/-- A lexeme begins where a gap has ended. -/
theorem FollowedBy.atLexeme (h : l.FollowedBy rest) : AtLexeme (l.spelling ++ rest) := by
  have hident : ∀ {raw more : List Char}, IsIdentifier raw → AtLexeme (raw ++ more) := by
    rintro raw more ⟨c, raw, rfl, hc, -⟩ _ ⟨⟩
    exact ⟨isBlank_of_isIdentStart hc, ne_of_apply_ne hc (by decide)⟩
  cases h with
  | ident h hr => exact hident h
  | number h hr =>
    obtain ⟨c, literal, rfl, hc⟩ := h.exists_cons
    rintro _ ⟨⟩
    exact ⟨isBlank_of_isDigit hc, ne_of_apply_ne hc (by decide)⟩
  | newline =>
    rintro _ ⟨⟩
    decide
  | punct mark =>
    rintro _ ⟨⟩
    cases mark <;> decide
  | invalid h =>
    rintro _ ⟨⟩
    exact ⟨h.isBlank_eq_false, h.ne_hash⟩
  | eof =>
    rintro _ ⟨⟩
  | @rejected head tail _ c h hc ht hr =>
    rcases h with ⟨rfl, -⟩ | ⟨h, -⟩
    · rintro _ ⟨⟩
      refine ⟨isBlank_of_not_isAscii hc, ?_⟩
      rintro rfl
      exact absurd hc (by decide)
    · rw [spelling, List.append_assoc]
      exact hident h

/-- An identifier takes up the characters that continue it. -/
theorem exists_isIdentifier {c : Char} (hc : isIdentStart c) (text : List Char) :
    ∃ raw rest, c :: text = raw ++ rest ∧ IsIdentifier raw ∧
      ∀ d ∈ rest.head?, isIdentContinue d = false := by
  refine ⟨c :: text.takeWhile isIdentContinue, text.dropWhile isIdentContinue, ?_, ?_, ?_⟩
  · rw [List.cons_append, List.takeWhile_append_dropWhile]
  · exact ⟨c, _, rfl, hc, fun d => List.mem_takeWhile_imp⟩
  · intro d hd
    exact head?_dropWhile_eq_false hd

/-- A rejected lexeme takes up the rest of its line. -/
theorem exists_rejected {head : List Char} {c : Char}
    (h : head = [] ∧ isIdentStart c = false ∨ IsIdentifier head ∧ isIdentContinue c = false)
    (hc : isAscii c = false) (text : List Char) :
    ∃ tail rest, head ++ c :: text = (rejected head c tail).spelling ++ rest ∧
      (rejected head c tail).FollowedBy rest := by
  refine ⟨text.takeWhile (· != '\n'), text.dropWhile (· != '\n'), ?_,
    .rejected h hc (newline_notMem_takeWhile _) (atLineEnd_dropWhile _)⟩
  rw [spelling, List.append_assoc, List.cons_append, List.takeWhile_append_dropWhile]

theorem exists_followedBy_of_isIdentStart {c : Char} (hc : isIdentStart c) (text : List Char) :
    ∃ (l : Lexeme) (rest : List Char), c :: text = l.spelling ++ rest ∧ l.FollowedBy rest := by
  obtain ⟨raw, rest, htext, hraw, hrest⟩ := exists_isIdentifier hc text
  by_cases ha : ∀ d ∈ rest.head?, isAscii d
  · exact ⟨.ident raw, rest, htext, .ident hraw fun d hd => ⟨hrest d hd, ha d hd⟩⟩
  · push Not at ha
    obtain ⟨d, hd, ha⟩ := ha
    obtain ⟨more, rfl⟩ := List.head?_eq_some_iff.1 hd
    obtain ⟨tail, rest, hcut, hl⟩ :=
      exists_rejected (.inr ⟨hraw, hrest d hd⟩) (by simpa using ha) more
    exact ⟨_, rest, htext.trans hcut, hl⟩

/-- Behind a gap every text begins with a lexeme. -/
theorem exists_followedBy {text : List Char} (h : AtLexeme text) :
    ∃ (l : Lexeme) (rest : List Char), text = l.spelling ++ rest ∧ l.FollowedBy rest := by
  cases text with
  | nil => exact ⟨.eof, [], rfl, .eof⟩
  | cons c text =>
    obtain ⟨hblank, hhash⟩ := h c rfl
    by_cases hn : c = '\n'
    · subst hn
      exact ⟨.newline, text, rfl, .newline text⟩
    cases hmark : Punctuation.ofChar? c with
    | some mark =>
      refine ⟨.punct mark, text, ?_, .punct mark text⟩
      rw [spelling, Punctuation.char_of_ofChar? hmark, List.singleton_append]
    | none =>
      by_cases hd : c.isDigit
      · exact ⟨.number (Numeral.split (c :: text)).1, (Numeral.split (c :: text)).2,
          (Numeral.split_append _).symm,
          .number (Numeral.isLiteral_split hd) (Numeral.stops_split _)⟩
      by_cases hs : isIdentStart c
      · exact exists_followedBy_of_isIdentStart hs text
      by_cases ha : isAscii c
      · refine ⟨.invalid c, text, rfl, .invalid ?_ text⟩
        exact ⟨ha, hn, hhash, hmark, hblank, by simpa using hd, by simpa using hs⟩
      · obtain ⟨tail, rest, hcut, hl⟩ :=
          exists_rejected (.inl ⟨rfl, by simpa using hs⟩) (by simpa using ha) text
        exact ⟨_, rest, hcut, hl⟩

/-- A lexeme of a text that ends with a line feed still ends there if more text follows. -/
theorem FollowedBy.append (h : l.FollowedBy rest) (hl : l ≠ .eof)
    (he : EndsLine (l.spelling ++ rest)) (more : List Char) : l.FollowedBy (rest ++ more) := by
  have hrest : l ≠ .newline → rest ≠ [] := by
    rintro hn rfl
    have hmem := h.newline_notMem hn
    rw [List.append_nil] at he
    rcases he with he | ⟨line, he⟩
    · exact h.spelling_ne_nil hl he
    · rw [he] at hmem
      exact hmem (List.mem_append_right _ (List.mem_singleton_self _))
  cases h with
  | newline => exact .newline _
  | punct mark => exact .punct mark _
  | invalid h => exact .invalid h _
  | eof => exact absurd rfl hl
  | ident h hr =>
    obtain ⟨c, rest, rfl⟩ := List.exists_cons_of_ne_nil (hrest Lexeme.noConfusion)
    exact .ident h hr
  | rejected h hc ht hr =>
    obtain ⟨c, rest, rfl⟩ := List.exists_cons_of_ne_nil (hrest Lexeme.noConfusion)
    exact .rejected h hc ht hr
  | number h hr =>
    obtain ⟨c, rest, rfl⟩ := List.exists_cons_of_ne_nil (hrest Lexeme.noConfusion)
    refine .number h ?_
    rintro _ _ ⟨⟩
    cases rest with
    | cons d rest => exact hr c (d :: rest) rfl
    | nil =>
      have hlast : EndsLine [c] := he.of_append_of_ne_nil (List.cons_ne_nil c [])
      obtain rfl : c = '\n' := hlast.eq_newline
      rfl

end Lexeme

/-! ## Segments -/

/-- A gap and the lexeme behind it, with the span of the lexeme. -/
structure Segment where
  gap : List Char
  lexeme : Lexeme
  span : Span

namespace Segment

def text (s : Segment) : List Char := s.gap ++ s.lexeme.spelling

/-- The segment of a gap at position `p` and a lexeme. -/
def place (file : FileId) (p : Position) (gap : List Char) (lexeme : Lexeme) : Segment :=
  ⟨gap, lexeme, ⟨p.advanceOver gap, p.advanceOver (gap ++ lexeme.spelling), file⟩⟩

/-- The segment in another file, `offset` bytes and `lines` lines further. -/
def moveTo (file : FileId) (offset lines : Nat) (s : Segment) : Segment :=
  { s with span := s.span.moveTo file offset lines }

theorem moveTo_place (file file' : FileId) (p : Position) (gap : List Char) (lexeme : Lexeme)
    (offset lines : Nat) :
    (place file p gap lexeme).moveTo file' offset lines =
      place file' (p.shift offset lines) gap lexeme := by
  simp only [place, moveTo, Span.moveTo, Position.shift_advanceOver]

end Segment

/-- The segments of a text at position `p` of a file. -/
inductive Segmented (file : FileId) : Position → List Char → List Segment → Prop
  | eof {p : Position} {text : List Char} (hg : IsTrivia text []) :
    Segmented file p text [.place file p text .eof]
  | cons {p : Position} {text gap rest : List Char} {l : Lexeme} {segments : List Segment}
    (ht : text = gap ++ (l.spelling ++ rest)) (hg : IsTrivia gap (l.spelling ++ rest))
    (hl : l.FollowedBy rest) (hne : l ≠ .eof)
    (h : Segmented file (p.advanceOver (gap ++ l.spelling)) rest segments) :
    Segmented file p text (.place file p gap l :: segments)

theorem exists_segmented (file : FileId) (p : Position) (text : List Char) :
    ∃ segments, Segmented file p text segments := by
  induction hn : text.length using Nat.strongRecOn generalizing p text with
  | _ n ih =>
    obtain ⟨gap, rest, rfl, hg, hrest⟩ := exists_trivia text
    obtain ⟨l, rest, rfl, hl⟩ := Lexeme.exists_followedBy hrest
    by_cases hne : l = .eof
    · subst hne
      cases hl
      rw [Lexeme.spelling, List.append_nil] at hg ⊢
      exact ⟨_, .eof (by rwa [List.append_nil])⟩
    · have hlen := List.length_pos_iff.2 (hl.spelling_ne_nil hne)
      simp only [List.length_append] at hn
      obtain ⟨segments, h⟩ := ih rest.length (by omega) (p.advanceOver (gap ++ l.spelling)) rest rfl
      exact ⟨_, .cons rfl hg hl hne h⟩

namespace Segmented

variable {file : FileId} {p : Position} {text : List Char} {segments : List Segment}

theorem ne_nil (h : Segmented file p text segments) : segments ≠ [] := by
  cases h <;> exact List.cons_ne_nil _ _

/-- The segments of whole lines do not depend on what follows. -/
theorem append {more : List Char} {segments' : List Segment} (h : Segmented file p text segments)
    (he : EndsLine text) (h' : Segmented file (p.advanceOver text) more segments') :
    Segmented file p (text ++ more) (segments.dropLast ++ segments') := by
  induction h with
  | @eof p text hg =>
    -- A gap holds no line feed, so here nothing is left of the lines.
    rcases he with rfl | ⟨line, rfl⟩
    · exact h'
    · exact absurd (List.mem_append_right _ (List.mem_singleton_self _)) hg.newline_notMem
  | @cons p text gap rest l segments ht hg hl hne h ih =>
    subst ht
    have he' : EndsLine (l.spelling ++ rest) :=
      he.of_append_of_ne_nil (List.append_ne_nil_of_left_ne_nil (hl.spelling_ne_nil hne) _)
    have hrest : EndsLine rest := by
      by_cases hnil : rest = []
      · exact .inl hnil
      · exact he'.of_append_of_ne_nil hnil
    rw [← List.append_assoc gap, Position.advanceOver_append] at h'
    rw [List.dropLast_cons_of_ne_nil h.ne_nil, List.cons_append]
    refine .cons ?_ ?_ (hl.append hne he' more) hne (ih hrest h')
    · simp only [List.append_assoc]
    · refine hg.congr ?_
      obtain ⟨c, spelling, hc⟩ := List.exists_cons_of_ne_nil (hl.spelling_ne_nil hne)
      rw [hc]
      rfl

/-- Elsewhere a text has the same segments, elsewhere. -/
theorem moveTo (h : Segmented file p text segments) (file' : FileId) (offset lines : Nat) :
    Segmented file' (p.shift offset lines) text (segments.map (·.moveTo file' offset lines)) := by
  induction h with
  | eof hg =>
    rw [List.map_singleton, Segment.moveTo_place]
    exact .eof hg
  | cons ht hg hl hne h ih =>
    rw [List.map_cons, Segment.moveTo_place]
    rw [← Position.shift_advanceOver] at ih
    exact .cons ht hg hl hne ih

/-- From any segment on, the segments are those of the text that is left. -/
theorem exists_of_append {before after : List Segment}
    (h : Segmented file p text (before ++ after)) (hne : after ≠ []) :
    ∃ rest, text = before.flatMap Segment.text ++ rest ∧
      Segmented file (p.advanceOver (before.flatMap Segment.text)) rest after := by
  induction before generalizing p text with
  | nil => exact ⟨text, rfl, h⟩
  | cons s before ih =>
    rw [List.cons_append] at h
    generalize hmore : before ++ after = more at h
    cases h with
    | eof hg => exact absurd (List.append_eq_nil_iff.1 hmore).2 hne
    | @cons _ _ gap rest l _ ht hg hl hl' h =>
      subst hmore
      obtain ⟨left, rfl, hleft⟩ := ih h
      refine ⟨left, ?_, ?_⟩
      · rw [ht, List.flatMap_cons]
        simp only [Segment.place, Segment.text, List.append_assoc]
      · rwa [← Position.advanceOver_append] at hleft

/-! ### Segments and lines -/

variable {s : Segment}

/-- The last segment is the end of the text. -/
theorem exists_eof (h : Segmented file p text segments) :
    ∃ q gap, segments = segments.dropLast ++ [.place file q gap .eof] := by
  induction h with
  | @eof p text hg => exact ⟨p, text, rfl⟩
  | cons ht hg hl hne h ih =>
    obtain ⟨q, gap, hq⟩ := ih
    refine ⟨q, gap, ?_⟩
    rw [List.dropLast_cons_of_ne_nil h.ne_nil, List.cons_append, ← hq]

theorem lo_span (h : Segmented file p text (s :: segments)) :
    s.span.lo = p.advanceOver s.gap ∧ '\n' ∉ s.gap := by
  cases h with
  | eof hg => exact ⟨rfl, hg.newline_notMem⟩
  | cons ht hg hl hne h => exact ⟨rfl, hg.newline_notMem⟩

theorem lexeme_ne_eof (h : Segmented file p text (s :: segments)) (hne : segments ≠ []) :
    s.lexeme ≠ .eof := by
  cases h with
  | eof hg => exact absurd rfl hne
  | cons ht hg hl hne h => exact hne

theorem newline_notMem_text (h : Segmented file p text segments) (hs : s ∈ segments)
    (hn : s.lexeme ≠ .newline) : '\n' ∉ s.text := by
  induction h with
  | eof hg =>
    obtain rfl := List.mem_singleton.1 hs
    simpa [Segment.place, Segment.text, Lexeme.spelling] using hg.newline_notMem
  | cons ht hg hl hne h ih =>
    rcases List.mem_cons.1 hs with rfl | hs
    · rw [Segment.text, List.mem_append, not_or]
      exact ⟨hg.newline_notMem, hl.newline_notMem hn⟩
    · exact ih hs

theorem newline_notMem_flatMap (h : Segmented file p text segments) {line : List Segment}
    (hmem : ∀ s ∈ line, s ∈ segments) (hline : ∀ s ∈ line, s.lexeme ≠ .newline) :
    '\n' ∉ line.flatMap Segment.text := by
  intro hn
  obtain ⟨s, hs, hn⟩ := List.mem_flatMap.1 hn
  exact h.newline_notMem_text (hmem s hs) (hline s hs) hn

theorem eq_newline_or_eq_eof (h : Segmented file p text (s :: segments)) (ht : AtLineEnd text) :
    s.lexeme = .newline ∨ s.lexeme = .eof := by
  cases h with
  | eof hg => exact .inr rfl
  | @cons _ _ gap rest l _ htext hg hl hne h =>
    subst htext
    obtain rfl := ht.eq_nil hg.newline_notMem
    rw [List.nil_append] at ht
    by_contra hs
    exact hl.spelling_ne_nil hne (ht.eq_nil (hl.newline_notMem fun hn => hs (.inl hn)))

/-- Within a line no segment but the last is rejected. -/
theorem isRejected_eq_false {s' : Segment} (h : Segmented file p text (s :: s' :: segments))
    (hs' : s'.lexeme ≠ .newline) (hne : s'.lexeme ≠ .eof) : s.lexeme.isRejected = false := by
  generalize hmore : s' :: segments = more at h
  cases h with
  | eof hg => cases hmore
  | @cons _ _ gap rest l _ ht hg hl hne h =>
    subst hmore
    cases hl with
    | rejected hhead hc htail hr =>
      rcases h.eq_newline_or_eq_eof hr with hs | hs
      · exact absurd hs hs'
      · exact absurd hs ‹_›
    | ident | number | newline | punct | invalid | eof => rfl

end Segmented

end Lexicon
