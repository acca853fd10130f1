import Lexicon.Listing
import Lexicon.Proofs.Lexer.Lossless

/-!
# Spellings in token records

The record of a token has its text, and the spelling in the source where that is `raw`.  For an
identifier and for a mark this tells the spelling, but the spelling of a number is nowhere in its
record: there is only the decimal text of its value.  So a number is told as it was spelled if it is
written as its value, and not otherwise (`recorded_spellings`, `record_of_padded_number`).
-/

namespace Lexicon

open Source Text Unicode

/-! ## The source spelling of a token -/

section Spelling

variable {file : SourceFile} {symbols : SymbolTable} {t : SpannedToken} {snippet : List Char}

/-- Listings show what an identifier was made of where that is not its text. -/
theorem sourceSpelling?_eq (hsnippet : file.snippet t.span = .ok snippet) :
    sourceSpelling? file symbols t =
      if t.token.isIdent ∧ String.ofList snippet ≠ t.token.text symbols then
        some (String.ofList snippet)
      else none := by
  unfold sourceSpelling?
  cases ht : t.token with
  | ident ident =>
    simp only [hsnippet, Token.isIdent, Token.text, true_and, ne_eq, ite_not]
  | number | newline | punct | invalid | eof =>
    rw [if_neg (by simp [Token.isIdent])]

end Spelling

/-! ## Fields of records -/

/-- The value of a field of an object. -/
def Text.Json.field? (name : String) : Json → Option Json
  | object fields => fields.lookup name
  | _ => none

namespace TokenRecord

/-- The record has `spelling` as `raw` if that is not its text, and otherwise has no `raw`. -/
def Keeps (r : TokenRecord) (spelling : String) : Prop :=
  r.raw = if spelling = r.text then none else some spelling

/-- The spelling that is read off a record: `raw`, or the text if there is no `raw`. -/
def spelling (r : TokenRecord) : String := r.raw.getD r.text

variable {r : TokenRecord} {spelling : String}

theorem Keeps.spelling_eq (h : r.Keeps spelling) : r.spelling = spelling := by
  rw [TokenRecord.spelling, h]
  split_ifs with htext
  · exact htext.symm
  · rfl

theorem keeps_iff_of_raw_eq_none (h : r.raw = none) : r.Keeps spelling ↔ r.text = spelling := by
  rw [Keeps, h, eq_comm (a := r.text)]
  by_cases htext : spelling = r.text <;> simp [htext]

theorem spelling_eq_iff_of_raw_eq_none (h : r.raw = none) :
    r.spelling = spelling ↔ r.text = spelling := by
  rw [TokenRecord.spelling, h, Option.getD_none]

theorem field?_toJson (r : TokenRecord) :
    r.toJson.field? "text" = some (.string r.text) ∧
      r.toJson.field? "raw" = r.raw.map .string := by
  unfold toJson Json.field? optionalField
  cases r.raw <;> exact ⟨rfl, rfl⟩

/-- What the record of an identifier, a number or a mark tells of its spelling. -/
structure TellsOf (r : TokenRecord) (spelling : List Char) : Prop where
  keeps_iff : r.Keeps (String.ofList spelling) ↔ (r.kind = "number" → Numeral.IsPlain spelling)
  /-- The spelling can be read off the record exactly where the record keeps it. -/
  spelling_eq_iff :
    r.spelling = String.ofList spelling ↔ (r.kind = "number" → Numeral.IsPlain spelling)
  ident : r.kind = "ident" → r.text = nameOf spelling
  punct : r.kind = "punct" → r.text = String.ofList spelling
  /-- The text of a number is its value, or the largest word, and there is no `raw`. -/
  number : r.kind = "number" → Numeral.IsLiteral spelling ∧ r.raw = none ∧
    r.text = toString (min (Numeral.decimalValue spelling) (UInt64.size - 1))
  json : r.toJson.field? "text" = some (.string r.text) ∧
    r.toJson.field? "raw" = r.raw.map .string

theorem Keeps.tellsOf_ident {spelling : List Char} (h : r.Keeps (String.ofList spelling))
    (hkind : r.kind = "ident") (htext : r.text = nameOf spelling) : r.TellsOf spelling where
  keeps_iff := iff_of_true h (by simp [hkind])
  spelling_eq_iff := iff_of_true h.spelling_eq (by simp [hkind])
  ident _ := htext
  punct := by simp [hkind]
  number := by simp [hkind]
  json := r.field?_toJson

theorem tellsOf_punct {spelling : List Char} (hkind : r.kind = "punct") (hraw : r.raw = none)
    (htext : r.text = String.ofList spelling) : r.TellsOf spelling where
  keeps_iff := iff_of_true ((keeps_iff_of_raw_eq_none hraw).2 htext) (by simp [hkind])
  spelling_eq_iff :=
    iff_of_true ((spelling_eq_iff_of_raw_eq_none hraw).2 htext) (by simp [hkind])
  ident := by simp [hkind]
  punct _ := htext
  number := by simp [hkind]
  json := r.field?_toJson

theorem tellsOf_number {literal : List Char} (h : Numeral.IsLiteral literal)
    (hkind : r.kind = "number") (hraw : r.raw = none)
    (htext : r.text = toString ((Numeral.value? literal).getD Numeral.largest)) :
    r.TellsOf literal where
  keeps_iff := by
    rw [keeps_iff_of_raw_eq_none hraw, htext, Numeral.toString_value_eq_iff h,
      forall_prop_of_true hkind]
  spelling_eq_iff := by
    rw [spelling_eq_iff_of_raw_eq_none hraw, htext, Numeral.toString_value_eq_iff h,
      forall_prop_of_true hkind]
  ident := by simp [hkind]
  punct := by simp [hkind]
  number _ := by
    refine ⟨h, hraw, ?_⟩
    rw [htext, ← toString_toNat, Numeral.toNat_getD_value? h]
  json := r.field?_toJson

section Tokens

variable {file : SourceFile} {symbols : SymbolTable} {t : SpannedToken} {snippet : List Char}
  (hsnippet : file.snippet t.span = .ok snippet)

include hsnippet

theorem keeps_of_isIdent (hident : t.token.isIdent) :
    (TokenRecord.of file symbols t).Keeps (String.ofList snippet) := by
  have hraw : (TokenRecord.of file symbols t).raw = _ := sourceSpelling?_eq hsnippet
  rw [Keeps, hraw]
  by_cases htext : String.ofList snippet = t.token.text symbols
  · exact (if_neg fun h => h.2 htext).trans (if_pos htext).symm
  · exact (if_pos ⟨hident, htext⟩).trans (if_neg htext).symm

theorem raw_eq_none (hident : t.token.isIdent = false) :
    (TokenRecord.of file symbols t).raw = none := by
  have hraw : (TokenRecord.of file symbols t).raw = _ := sourceSpelling?_eq hsnippet
  rw [hraw, if_neg (by simp [hident])]

/-- The record of a token tells how the token is spelled. -/
theorem tellsOf_of_spelledBy (h : SpelledBy symbols t snippet)
    (hkind : t.token.kind ∈ ["ident", "number", "punct"]) :
    (TokenRecord.of file symbols t).TellsOf snippet := by
  cases h with
  | ident h hname span => exact (keeps_of_isIdent hsnippet rfl).tellsOf_ident rfl hname
  | number h span => exact tellsOf_number h rfl (raw_eq_none hsnippet rfl) rfl
  | punct mark span => exact tellsOf_punct rfl (raw_eq_none hsnippet rfl) rfl
  | newline | invalid => simp [Token.kind] at hkind

end Tokens

end TokenRecord

/-- In the records of the tokens of a file, identifiers and marks keep their spelling, and numbers
keep it exactly if they are written as their value. -/
theorem recorded_spellings {file : SourceFile} {options : LexOptions} {policy : RecoveryPolicy}
    {symbols : SymbolTable} {log : DiagnosticLog} {tokens : Array SpannedToken} {lx : Lexer}
    (h : tokenize file options policy symbols log = (.ok tokens, lx))
    (diagnostics : List Diagnostic) {r : TokenRecord}
    (hr : r ∈ (FileRecord.of file lx.symbols (.ok tokens) diagnostics).tokens)
    (hkind : r.kind ∈ ["ident", "number", "punct"]) :
    ∃ spelling, slice? file.text r.start r.stop = some spelling ∧ r.TellsOf spelling := by
  obtain ⟨t, ht, rfl⟩ := List.mem_map.1 hr
  have hne : t.token ≠ .eof := by
    intro heof
    simp [TokenRecord.of, heof, Token.kind] at hkind
  obtain ⟨snippet, hsnippet, hspelled⟩ := exists_spelledBy h ht hne
  exact ⟨snippet, file.slice?_of_snippet_eq_ok hsnippet,
    TokenRecord.tellsOf_of_spelledBy hsnippet hspelled hkind⟩

/-- An identifier and a number that is written as its value. -/
theorem recorded_spellings_plain_number :
    ∃ (file : SourceFile) (tokens : Array SpannedToken) (lx : Lexer) (r : TokenRecord),
      file.text = "x = 42".toList ∧ tokenize file {} .abort {} {} = (.ok tokens, lx) ∧
      r ∈ (FileRecord.of file lx.symbols (.ok tokens) []).tokens ∧
      r.kind ∈ ["ident", "number", "punct"] ∧
      ∃ spelling, slice? file.text r.start r.stop = some spelling ∧ r.TellsOf spelling ∧
        spelling = "42".toList ∧ r.Keeps "42" := by
  obtain ⟨lx, hrun⟩ : ∃ lx, tokenize { id := 0, name := "a", text := "x = 42".toList } {} .abort
      {} {} = (.ok #[⟨.ident ⟨⟨0⟩, ⟨⟨0, 1, 1⟩, ⟨1, 1, 2⟩, 0⟩⟩, ⟨⟨0, 1, 1⟩, ⟨1, 1, 2⟩, 0⟩⟩,
        ⟨.punct .equal, ⟨⟨2, 1, 3⟩, ⟨3, 1, 4⟩, 0⟩⟩, ⟨.number 42, ⟨⟨4, 1, 5⟩, ⟨6, 1, 7⟩, 0⟩⟩,
        ⟨.eof, ⟨⟨6, 1, 7⟩, ⟨6, 1, 7⟩, 0⟩⟩], lx) :=
    ⟨_, Prod.ext (by cbv) rfl⟩
  obtain ⟨spelling, hslice, htells⟩ :=
    recorded_spellings (r := ⟨"number", "42", none, 1, 5, 4, 6⟩) hrun []
      (.tail _ (.tail _ (.head _))) (by decide)
  obtain rfl : "42".toList = spelling := Option.some.inj (.trans (by decide +kernel) hslice)
  have hplain : Numeral.IsPlain "42".toList := by decide
  exact ⟨_, _, _, ⟨"number", "42", none, 1, 5, 4, 6⟩, rfl, hrun, .tail _ (.tail _ (.head _)),
    by decide, _, hslice, htells, rfl, htells.keeps_iff.2 fun _ => hplain⟩

/-- The record of a number with zeros in front does not tell them. -/
theorem record_of_padded_number :
    ∃ (file : SourceFile) (tokens : Array SpannedToken) (lx : Lexer) (r : TokenRecord),
      file.text = "007".toList ∧ tokenize file {} .abort {} {} = (.ok tokens, lx) ∧
      r ∈ (FileRecord.of file lx.symbols (.ok tokens) []).tokens ∧ r.kind = "number" ∧
      slice? file.text r.start r.stop = some "007".toList ∧
      r.text = "7" ∧ r.raw = none ∧ r.spelling ≠ "007" ∧ ¬ r.Keeps "007" := by
  have hok : (tokenize { id := 0, name := "a", text := "007".toList } {} .abort {} {}).1 =
      .ok #[⟨.number 7, ⟨⟨0, 1, 1⟩, ⟨3, 1, 4⟩, 0⟩⟩, ⟨.eof, ⟨⟨3, 1, 4⟩, ⟨3, 1, 4⟩, 0⟩⟩] := by
    cbv
  refine ⟨_, _, _, ⟨"number", "7", none, 1, 1, 0, 3⟩, rfl, Prod.ext hok rfl,
    List.mem_cons_self, rfl, by decide +kernel, rfl, rfl, by decide, ?_⟩
  rw [TokenRecord.keeps_iff_of_raw_eq_none rfl]
  decide

end Lexicon
