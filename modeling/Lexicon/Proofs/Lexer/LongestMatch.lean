import Lexicon.Proofs.Lexer.Reading
import Lexicon.Proofs.Symbol
import Lexicon.Proofs.Unicode.Normalization

/-!
# The longest match

Where an identifier begins, the lexer reads the longest one that the text goes on with, and fails if
a character beyond ASCII follows that cannot continue it (`nextToken_longest_ident`).  Where a digit
stands, it reads the longest literal, and its exact value as far as a word can hold it
(`nextToken_longest_literal`).  Both are said of a lexer anywhere in its file, in front of blanks
and comments (`Lexer.Faces`).
-/

namespace Lexicon

open Source Text Unicode

/-! ## Longest first parts -/

/-- `taken` is the longest first part of `text` that has the property `p`. -/
structure IsLongest (p : List Char → Prop) (text taken : List Char) : Prop where
  holds : p taken
  begins : taken <+: text
  longest : ∀ other, p other → other <+: text → other.length ≤ taken.length

section IsLongest

variable {p : List Char → Prop} {text : List Char}

theorem IsLongest.unique {a b : List Char} (ha : IsLongest p text a) (hb : IsLongest p text b) :
    a = b := by
  have hlen : a.length = b.length := by
    apply Nat.le_antisymm
    · exact hb.longest a ha.holds ha.begins
    · exact ha.longest b hb.holds hb.begins
  exact (List.prefix_of_prefix_length_le ha.begins hb.begins hlen.le).eq_of_length hlen

/-- Where all characters of such parts are of one class, the part ends at another character. -/
theorem IsLongest.of_stop {q : Char → Bool} {taken rest : List Char} (hp : p taken)
    (hq : ∀ other, p other → ∀ c ∈ other, q c) (hr : ∀ c ∈ rest.head?, q c = false) :
    IsLongest p (taken ++ rest) taken := by
  refine ⟨hp, List.prefix_append taken rest, fun other hother hbegins => ?_⟩
  by_contra hlt
  obtain ⟨more, rfl⟩ :=
    List.prefix_of_prefix_length_le (List.prefix_append taken rest) hbegins (by omega)
  rw [List.prefix_append_right_inj] at hbegins
  cases more with
  | nil => simp at hlt
  | cons c more =>
    obtain ⟨rest, rfl⟩ := hbegins
    have hc : q c := hq _ hother c (by simp)
    rw [hr c rfl] at hc
    cases hc

theorem isLongest_ident {raw rest : List Char} (hraw : IsIdentifier raw)
    (hr : ∀ c ∈ rest.head?, isIdentContinue c = false) :
    IsLongest IsIdentifier (raw ++ rest) raw :=
  .of_stop hraw (fun _ h => h.forall_isIdentContinue) hr

theorem isLongest_split {c : Char} (hc : c.isDigit) (text : List Char) :
    IsLongest Numeral.IsLiteral (c :: text) (Numeral.split (c :: text)).1 := by
  refine ⟨Numeral.isLiteral_split hc, ⟨_, Numeral.split_append _⟩, ?_⟩
  rintro other hother ⟨rest, htext⟩
  rw [← htext, Numeral.split_literal_append hother]
  simp

end IsLongest

/-! ## Places of errors and tokens -/

/-- The error is about the character `c`, which stands in the file behind `before`. -/
structure LexError.PointsAt (e : LexError) (file : SourceFile) (before : List Char) (c : Char) :
    Prop where
  offending_eq : e.offending = c
  file_eq : e.file = file.name
  line_eq : e.line = (file.positionAt (byteLength before)).line
  span : file.SpanOf before [c] e.span

namespace Lexer

/-- The lexer stands in its file behind `before`, and from there blanks and a comment, `gap`, lead
to `text`. -/
structure Faces (lx : Lexer) (before gap text : List Char) : Prop where
  behind : lx.cursor.StandsBehind lx.file.text before
  rest_eq : lx.cursor.rest = gap ++ text
  trivia : IsTrivia gap text

/-- The last token of the lexer is what is spelled `spelling` in the file behind `before`, and the
cursor stands right behind it. -/
structure HasRead (lx : Lexer) (file : SourceFile) (before spelling : List Char) : Prop where
  cursor : lx.cursor.StandsBehind file.text (before ++ spelling)
  span : file.SpanOf before spelling lx.tokenSpan

namespace Faces

variable {lx : Lexer} {before gap rest : List Char}

theorem text_eq {text : List Char} (h : lx.Faces before gap text) :
    lx.file.text = before ++ gap ++ text := by
  rw [h.behind.text_eq, h.rest_eq, List.append_assoc]

theorem advanceOver_eq {text : List Char} (h : lx.Faces before gap text) (part : List Char) :
    lx.cursor.pos.advanceOver (gap ++ part) =
      Position.start.advanceOver (before ++ gap ++ part) := by
  rw [h.behind.pos_eq, ← Position.advanceOver_append, List.append_assoc]

/-- Behind a segment the lexer has read its lexeme. -/
theorem hasRead {l : Lexeme} (h : lx.Faces before gap (l.spelling ++ rest)) :
    (lx.past (.place lx.file.id lx.cursor.pos gap l) rest).HasRead lx.file (before ++ gap)
      l.spelling := by
  have htext : lx.file.text = before ++ gap ++ l.spelling ++ rest := by
    rw [h.text_eq, List.append_assoc _ l.spelling]
  have hlo := h.advanceOver_eq []
  have hhi := h.advanceOver_eq l.spelling
  rw [List.append_nil, List.append_nil] at hlo
  constructor
  · have hrest : lx.cursor.rest = (gap ++ l.spelling) ++ rest := by
      rw [h.rest_eq, List.append_assoc]
    rw [List.append_assoc]
    exact h.behind.moveOver hrest
  · have hspan := lx.file.spanOf_advanceOver htext
    rwa [← hlo, ← hhi] at hspan

/-- A lexer that fails stands in front of the character that its error is about, and has reported
nothing. -/
theorem nextToken_rejected {head tail : List Char} {c : Char}
    (h : lx.Faces before gap ((Lexeme.rejected head c tail).spelling ++ rest))
    (hl : (Lexeme.rejected head c tail).FollowedBy rest) :
    ∃ e lx', lx.nextToken = (.error e, lx') ∧ e.PointsAt lx.file (before ++ gap ++ head) c ∧
      lx'.Faces (before ++ gap ++ head) [] (c :: (tail ++ rest)) ∧ lx'.file = lx.file ∧
      lx'.log = lx.log := by
  have hrest : lx.cursor.rest = (gap ++ head) ++ c :: (tail ++ rest) := by
    rw [h.rest_eq, Lexeme.spelling]
    simp
  have htext : lx.file.text = before ++ gap ++ head ++ [c] ++ (tail ++ rest) := by
    rw [h.text_eq, Lexeme.spelling]
    simp
  have hspan : lx.file.SpanOf (before ++ gap ++ head) [c]
      ((Segment.place lx.file.id lx.cursor.pos gap (.rejected head c tail)).charSpan head c) := by
    have hlo := h.advanceOver_eq head
    have hhi := h.advanceOver_eq (head ++ [c])
    have hpart := lx.file.spanOf_advanceOver htext
    rw [← hlo, List.append_assoc _ head, ← hhi] at hpart
    simpa only [Segment.charSpan, Segment.place, Position.advanceOver_append] using hpart
  refine ⟨_, _, nextToken_eq_error h.rest_eq h.trivia hl rfl, ?_, ?_, rfl, rfl⟩
  · exact ⟨rfl, rfl, congrArg Position.line hspan.lo_eq, hspan⟩
  · rw [List.append_assoc]
    exact ⟨h.behind.moveOver hrest, rfl, .blanks (List.forall_mem_nil _)⟩

end Faces

/-! ## Identifiers and literals -/

variable {lx : Lexer} {before gap text : List Char} {c : Char}

/-- Where a letter, an underscore or a character beyond ASCII comes next, the lexer reads the
longest identifier that the text goes on with.  It fails at that character if it cannot start one,
and behind the identifier if a character beyond ASCII follows. -/
theorem nextToken_longest_ident (h : lx.Faces before gap (c :: text))
    (hc : isAsciiIdentStart c ∨ isAscii c = false) :
    (isIdentStart c = false →
      ∃ e lx', lx.nextToken = (.error e, lx') ∧ e.PointsAt lx.file (before ++ gap) c) ∧
    (isIdentStart c →
      ∃ raw rest, c :: text = raw ++ rest ∧ IsLongest IsIdentifier (c :: text) raw ∧
        ((∀ d ∈ rest.head?, isAscii d) →
          ∃ ident lx', lx.nextToken = (.ok (.ident ident), lx') ∧
            lx'.HasRead lx.file (before ++ gap) raw ∧ ident.span = lx'.tokenSpan ∧
            lx'.symbols.get ident.name = .ok (String.ofList (nfkc raw))) ∧
        ∀ d ∈ rest.head?, isAscii d = false →
          ∃ e lx', lx.nextToken = (.error e, lx') ∧
            e.PointsAt lx.file (before ++ gap ++ raw) d) := by
  constructor
  · intro hstart
    have ha : isAscii c = false := by
      rcases hc with hc | hc
      · by_contra ha
        rw [isIdentStart_of_isAscii (by simpa using ha), hc] at hstart
        cases hstart
      · exact hc
    obtain ⟨tail, rest, htext, hl⟩ := Lexeme.exists_rejected (.inl ⟨rfl, hstart⟩) ha text
    rw [List.nil_append] at htext
    rw [htext] at h
    obtain ⟨e, lx', hnext, he, -⟩ := h.nextToken_rejected hl
    rw [List.append_nil] at he
    exact ⟨e, lx', hnext, he⟩
  · intro hstart
    obtain ⟨raw, rest, htext, hraw, hrest⟩ := Lexeme.exists_isIdentifier hstart text
    rw [htext] at h
    refine ⟨raw, rest, htext, htext ▸ isLongest_ident hraw hrest, fun hascii => ?_,
      fun d hd ha => ?_⟩
    · have hl : (Lexeme.ident raw).FollowedBy rest :=
        .ident hraw fun d hd => ⟨hrest d hd, hascii d hd⟩
      have hface : lx.Faces before gap ((Lexeme.ident raw).spelling ++ rest) := h
      refine ⟨_, _, nextToken_eq_ok h.rest_eq h.trivia hl rfl, hface.hasRead, rfl, ?_⟩
      rw [SymbolTable.get_eq_ok_iff, ← normalize_eq_nfkc]
      exact lx.symbols.getElem?_strings_intern (nameOf raw)
    · obtain ⟨more, rfl⟩ := List.head?_eq_some_iff.1 hd
      obtain ⟨tail, rest, hcut, hl⟩ := Lexeme.exists_rejected (.inr ⟨hraw, hrest d hd⟩) ha more
      rw [hcut] at h
      obtain ⟨e, lx', hnext, he, -⟩ := h.nextToken_rejected hl
      exact ⟨e, lx', hnext, he⟩

/-- A ligature and a character that cannot start an identifier, behind a byte order mark. -/
theorem nextToken_longest_ident_ligature :
    ∃ (lx lx' : Lexer) (ident : Ident),
      lx.file.text = "\uFEFF\tﬁ·+".toList ∧
      lx.Faces ['\uFEFF'] ['\t'] ['ﬁ', '·', '+'] ∧
      lx.nextToken = (.ok (.ident ident), lx') ∧
      lx'.HasRead lx.file ['\uFEFF', '\t'] ['ﬁ', '·'] ∧
      ident.span = lx'.tokenSpan ∧
      lx'.symbols.get ident.name = .ok "fi·" := by
  have hface : (ofFile { id := 0, name := "a", text := "\uFEFF\tﬁ·+".toList } {} {} {}).Faces
      ['\uFEFF'] ['\t'] ['ﬁ', '·', '+'] :=
    ⟨⟨rfl, rfl, rfl⟩, rfl, .blanks (List.forall_mem_singleton.2 (by decide))⟩
  have hspelling : IsLongest IsIdentifier ['ﬁ', '·', '+'] ['ﬁ', '·'] := by
    show IsLongest IsIdentifier (['ﬁ', '·'] ++ ['+']) ['ﬁ', '·']
    apply isLongest_ident
    · exact ⟨'ﬁ', ['·'], rfl, by decide +kernel, List.forall_mem_singleton.2 (by decide +kernel)⟩
    · rintro _ ⟨⟩
      decide +kernel
  obtain ⟨raw, rest, htext, hraw, hread, -⟩ :=
    (nextToken_longest_ident hface (.inr (by decide))).2 (by decide +kernel)
  obtain rfl := hraw.unique hspelling
  obtain rfl : ['+'] = rest := (List.append_right_inj ['ﬁ', '·']).1 htext
  obtain ⟨ident, lx', hnext, hread, hspan, hname⟩ := hread (by rintro _ ⟨⟩; decide)
  have hform : String.ofList (nfkc ['ﬁ', '·']) = "fi·" := by decide +kernel
  exact ⟨_, lx', ident, rfl, hface, hnext, hread, hspan, hform ▸ hname⟩

/-- Where a digit comes next, the lexer reads the longest literal that the text goes on with.  A
value that a word holds is the token's, and nothing is reported; any other one is read as the
largest word and reported, once, with the span and the text of the literal. -/
theorem nextToken_longest_literal (h : lx.Faces before gap (c :: text)) (hc : c.isDigit) :
    ∃ literal value lx', lx.nextToken = (.ok (.number value), lx') ∧
      IsLongest Numeral.IsLiteral (c :: text) literal ∧
      lx'.HasRead lx.file (before ++ gap) literal ∧
      (Numeral.decimalValue literal < UInt64.size →
        value.toNat = Numeral.decimalValue literal ∧ lx'.log = lx.log) ∧
      (UInt64.size ≤ Numeral.decimalValue literal →
        value.toNat = UInt64.size - 1 ∧
        lx'.log = lx.log.error .numberTooLarge
          s!"integer literal `{String.ofList literal}` is too large" lx'.tokenSpan) := by
  have hliteral : Numeral.IsLiteral (Numeral.split (c :: text)).1 := Numeral.isLiteral_split hc
  have hstops := Numeral.stops_split (c :: text)
  have hlongest := isLongest_split hc text
  have htext := Numeral.split_append (c :: text)
  generalize Numeral.split (c :: text) = parts at hliteral hstops hlongest htext
  obtain ⟨literal, rest⟩ := parts
  rw [← htext] at h
  have hface : lx.Faces before gap ((Lexeme.number literal).spelling ++ rest) := h
  have hnext := nextToken_eq_ok h.rest_eq h.trivia (.number hliteral hstops) rfl
  have hvalue := Numeral.value?_eq hliteral
  refine ⟨literal, _, _, hnext, hlongest, hface.hasRead, fun hlt => ?_, fun hle => ?_⟩
  · have hsome : Numeral.value? literal = some (UInt64.ofNat (Numeral.decimalValue literal)) := by
      rw [hvalue, if_pos hlt]
    constructor
    · rw [hsome, Option.getD_some]
      exact UInt64.toNat_ofNat_of_lt' hlt
    · simp [past, Segment.place, Segment.diagnostics, hsome, DiagnosticLog.emitAll_nil]
  · have hnone : Numeral.value? literal = none := by
      rw [hvalue, if_neg (Nat.not_lt.2 hle)]
    constructor
    · rw [hnone]
      rfl
    · simp [past, Segment.place, Segment.diagnostics, hnone, DiagnosticLog.emitAll_singleton,
        DiagnosticLog.error, tokenSpan, Cursor.pos_moveOver, Segment.text]

/-- The smallest value that no word holds, with a leading zero, in front of an underscore that does
not belong to the literal. -/
theorem nextToken_longest_literal_too_large :
    ∃ (lx lx' : Lexer) (value : UInt64),
      lx.file.text = " 0_18446744073709551616_".toList ∧
      lx.Faces [] [' '] "0_18446744073709551616_".toList ∧
      lx.nextToken = (.ok (.number value), lx') ∧
      lx'.HasRead lx.file [' '] "0_18446744073709551616".toList ∧
      value.toNat = UInt64.size - 1 ∧
      lx'.log = lx.log.error .numberTooLarge
        "integer literal `0_18446744073709551616` is too large" lx'.tokenSpan := by
  have hface : (ofFile { id := 0, name := "a", text := " 0_18446744073709551616_".toList } {} {}
      {}).Faces [] [' '] "0_18446744073709551616_".toList :=
    ⟨⟨rfl, rfl, rfl⟩, rfl, .blanks (List.forall_mem_singleton.2 (by decide))⟩
  obtain ⟨literal, value, lx', hnext, hliteral, hread, -, hreport⟩ :=
    nextToken_longest_literal hface (by decide)
  obtain rfl : "0_18446744073709551616".toList = literal := by
    rw [hliteral.unique (isLongest_split (by decide) _)]
    decide +kernel
  obtain ⟨hvalue, hlog⟩ := hreport (by decide +kernel)
  exact ⟨_, lx', value, rfl, hface, hnext, hread, hvalue, hlog⟩

end Lexer

end Lexicon
