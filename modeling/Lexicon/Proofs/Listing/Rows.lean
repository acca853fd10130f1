import Lexicon.Command.Outcome
import Lexicon.Proofs.Lexer.NormalizedName
import Lexicon.Proofs.Listing.Spelling
import Lexicon.Proofs.Text.Decimal

/-!
# Rows of token listings

The lines of a listing end in line feeds and their fields stand between tabs.  Neither character is
in a field (`SpelledBy.isField_of_mem_tokenFields`), so the fields of all lines can be read off the
text (`rowsOf_printed`), and from them what was listed of each token (`TokenEntry.fields_inj`).
Listings with the same text list the same entries (`listing_unambiguous`).
-/

namespace Lexicon

open Source Text Unicode

/-! ## Rows of fields -/

/-- A text that can stand between tabs in a line. -/
def IsField (s : String) : Prop := '\t' ∉ s.toList ∧ '\n' ∉ s.toList

instance (s : String) : Decidable (IsField s) := inferInstanceAs (Decidable (_ ∧ _))

theorem IsField.append {s t : String} (hs : IsField s) (ht : IsField t) : IsField (s ++ t) := by
  simp only [IsField, String.toList_append, List.mem_append, not_or]
  exact ⟨⟨hs.1, ht.1⟩, hs.2, ht.2⟩

theorem isField_toString (n : Nat) : IsField (toString n) :=
  ⟨notMem_toString (by decide) n, notMem_toString (by decide) n⟩

/-- The fields of a line. -/
def fieldsOf (line : List Char) : List String := (line.splitOn '\t').map String.ofList

/-- The fields of the lines of a text.  What stands behind the last line feed is no line. -/
def rowsOf (text : String) : List (List String) :=
  (text.toList.splitOn '\n').dropLast.map fieldsOf

theorem fieldsOf_intercalate {fields : List String} (hne : fields ≠ [])
    (h : ∀ field ∈ fields, IsField field) : fieldsOf ("\t".intercalate fields).toList = fields := by
  have htab : ∀ chars ∈ fields.map String.toList, '\t' ∉ chars :=
    List.forall_mem_map.2 fun field hfield => (h field hfield).1
  have hsplit := List.splitOn_intercalate '\t' htab (by simpa using hne)
  rw [fieldsOf, String.toList_intercalate]
  show (List.splitOn '\t' (['\t'].intercalate (fields.map String.toList))).map String.ofList =
    fields
  rw [hsplit]
  simp

theorem newline_notMem_intercalate {fields : List String} (h : ∀ field ∈ fields, IsField field) :
    '\n' ∉ ("\t".intercalate fields).toList := by
  induction fields with
  | nil => decide
  | cons field fields ih =>
    have hfield := (h field List.mem_cons_self).2
    have hfields := ih fun f hf => h f (List.mem_cons_of_mem _ hf)
    cases fields with
    | nil => simpa using hfield
    | cons next fields =>
      rw [String.intercalate_cons_cons]
      simp only [String.toList_append, List.mem_append, not_or]
      exact ⟨⟨hfield, by decide⟩, hfields⟩

theorem toList_printed_cons (line : String) (lines : List String) :
    (Outcome.printed (line :: lines)).toList =
      line.toList ++ '\n' :: (Outcome.printed lines).toList := by
  simp [Outcome.printed, String.toList_join]

/-- Rows of fields can be read back from the text in which they are printed. -/
theorem rowsOf_printed {rows : List (List String)} (hne : ∀ row ∈ rows, row ≠ [])
    (h : ∀ row ∈ rows, ∀ field ∈ row, IsField field) :
    rowsOf (Outcome.printed (rows.map ("\t".intercalate ·))) = rows := by
  induction rows with
  | nil => rfl
  | cons row rows ih =>
    obtain ⟨hrow, hrows⟩ := List.forall_mem_cons.1 h
    obtain ⟨hnil, hnils⟩ := List.forall_mem_cons.1 hne
    rw [List.map_cons, rowsOf, toList_printed_cons,
      List.splitOn_append_cons_self_of_not_mem (newline_notMem_intercalate hrow),
      List.dropLast_cons_of_ne_nil (List.splitOn_ne_nil _ _), List.map_cons,
      fieldsOf_intercalate hnil hrow]
    exact congrArg (row :: ·) (ih hnils hrows)

/-! ## Entries -/

/-- What a line of a listing tells of a token. -/
@[ext]
structure TokenEntry where
  /-- The line and column of its start, if they are shown. -/
  start : Option (Nat × Nat)
  kind : String
  text : String
  /-- The source spelling of an identifier whose name is spelled otherwise. -/
  spelling : Option String
  deriving DecidableEq, Repr

namespace TokenEntry

def of (showSpans : Bool) (file : SourceFile) (symbols : SymbolTable) (t : SpannedToken) :
    TokenEntry where
  start := if showSpans then some (t.span.lo.line, t.span.lo.column) else none
  kind := t.token.kind
  text := t.token.text symbols
  spelling := sourceSpelling? file symbols t

/-- The field that shows a line and a column. -/
def startField (p : Nat × Nat) : String := s!"{p.1}:{p.2}"

/-- The field that shows a source spelling. -/
def spellingField (raw : String) : String := s!"(from {raw})"

def fields (e : TokenEntry) : List String :=
  (e.start.map startField).toList ++ [e.kind, e.text] ++ (e.spelling.map spellingField).toList

theorem fields_of (showSpans : Bool) (file : SourceFile) (symbols : SymbolTable)
    (t : SpannedToken) :
    (of showSpans file symbols t).fields = tokenFields showSpans file symbols t := by
  cases showSpans <;> rfl

variable {e e' : TokenEntry}

theorem fields_ne_nil (e : TokenEntry) : e.fields ≠ [] := by simp [fields]

theorem isField_of_mem_fields (hkind : IsField e.kind) (htext : IsField e.text)
    (hspelling : ∀ raw ∈ e.spelling, IsField raw) : ∀ field ∈ e.fields, IsField field := by
  intro field hfield
  simp only [fields, List.mem_append, Option.mem_toList, Option.map_eq_some_iff, List.mem_cons,
    List.not_mem_nil, or_false] at hfield
  rcases hfield with (⟨p, -, rfl⟩ | rfl | rfl) | ⟨raw, hraw, rfl⟩
  · exact ((isField_toString p.1).append (by decide)).append (isField_toString p.2)
  · exact hkind
  · exact htext
  · exact (IsField.append (by decide) (hspelling raw hraw)).append (by decide)

/-- A number has no colon in it. -/
theorem startField_injective : Function.Injective startField := by
  intro p q h
  have hchars : (toString p.1).toList ++ ':' :: (toString p.2).toList =
      (toString q.1).toList ++ ':' :: (toString q.2).toList := by
    have := congrArg String.toList h
    simp only [startField, String.toList_append, List.append_assoc] at this
    exact this
  have hcolon (n : Nat) : ':' ∉ (toString n).toList := notMem_toString (by decide) n
  obtain ⟨hline, -, hcolumn⟩ :=
    (List.append_cons_inj_of_notMem (hcolon p.1) (hcolon p.2)).1 hchars
  exact Prod.ext (Nat.repr_inj.1 (String.toList_inj.1 hline))
    (Nat.repr_inj.1 (String.toList_inj.1 hcolumn))

theorem spellingField_injective : Function.Injective spellingField := by
  intro raw raw' h
  exact (String.append_right_inj "(from ").1 ((String.append_left_inj ")").1 h)

/-- If both entries have a start or neither has, the fields tell them apart. -/
theorem fields_inj (h : e.start.isSome = e'.start.isSome) (hfields : e.fields = e'.fields) :
    e = e' := by
  have hinj : Function.Injective (Option.toList : Option String → List String) :=
    Function.LeftInverse.injective (g := List.head?) fun o => Option.head?_toList
  have hlength : (e.start.map startField).toList.length =
      (e'.start.map startField).toList.length := by
    simp only [Option.length_toList, Option.isSome_map, h]
  -- The parts in front are equally long, so the fields fall apart at the same places.
  obtain ⟨hfront, hspelling⟩ := List.append_inj hfields (by simp [hlength])
  obtain ⟨hstart, hmiddle⟩ := List.append_inj hfront hlength
  obtain ⟨hkind, htext⟩ : e.kind = e'.kind ∧ e.text = e'.text := by simpa using hmiddle
  exact TokenEntry.ext (Option.map_injective startField_injective (hinj hstart)) hkind htext
    (Option.map_injective spellingField_injective (hinj hspelling))

theorem map_fields_inj {es es' : List TokenEntry}
    (h : ∀ e ∈ es, ∀ e' ∈ es', e.start.isSome = e'.start.isSome)
    (hfields : es.map fields = es'.map fields) : es = es' := by
  induction es generalizing es' with
  | nil => exact (List.map_eq_nil_iff.1 hfields.symm).symm
  | cons e es ih =>
    cases es' with
    | nil => cases hfields
    | cons e' es' =>
      obtain ⟨hfirst, hrest⟩ := List.cons_eq_cons.1 hfields
      rw [fields_inj (h e List.mem_cons_self e' List.mem_cons_self) hfirst,
        ih (fun a ha b hb => h a (List.mem_cons_of_mem _ ha) b (List.mem_cons_of_mem _ hb)) hrest]

end TokenEntry

/-! ## Fields of tokens -/

theorem IsIdentifier.isField {raw : List Char} (h : IsIdentifier raw) :
    IsField (String.ofList raw) := by
  rw [IsField, String.toList_ofList]
  refine ⟨fun htab => ?_, h.newline_notMem⟩
  have hcontinue := h.forall_isIdentContinue _ htab
  rw [isIdentContinue_of_isBlank (by decide)] at hcontinue
  cases hcontinue

/-- Control characters are escaped when they are shown. -/
theorem isField_shownChar {c : Char} (h : isAscii c) : IsField (shownChar c) := by
  have hall : ∀ n < 128, IsField (shownChar (Char.ofNat n)) := by decide +kernel
  have hc := hall c.toNat (of_decide_eq_true h)
  rwa [Char.ofNat_toNat] at hc

theorem isField_kind (t : Token) : IsField t.kind := by
  have hall : ∀ kind ∈ ["ident", "number", "newline", "punct", "invalid", "eof"], IsField kind := by
    decide
  apply hall
  cases t <;> simp [Token.kind]

section Tokens

variable {file : SourceFile} {symbols : SymbolTable} {t : SpannedToken} {snippet : List Char}

theorem SpelledBy.isField_text (h : SpelledBy symbols t snippet) :
    IsField (t.token.text symbols) := by
  cases h with
  | ident h hname span =>
    rw [Token.text, hname, nameOf, normalize_eq_nfkc]
    exact h.nfkc.isField
  | number h span => exact isField_toString _
  | newline span =>
    show IsField "\\n"
    decide
  | punct mark span =>
    show IsField mark.char.toString
    cases mark <;> decide
  | invalid h span => exact isField_shownChar h.isAscii

theorem SpelledBy.isField_sourceSpelling? (h : SpelledBy symbols t snippet)
    (hsnippet : file.snippet t.span = .ok snippet) :
    ∀ raw ∈ sourceSpelling? file symbols t, IsField raw := by
  intro raw hraw
  rw [sourceSpelling?_eq hsnippet, Option.mem_ite_none_right] at hraw
  obtain ⟨⟨hident, -⟩, hraw⟩ := hraw
  obtain rfl := Option.some.inj hraw
  cases h with
  | ident h hname span => exact h.isField
  | number | newline | punct | invalid => cases hident

theorem SpelledBy.isField_of_mem_tokenFields (h : SpelledBy symbols t snippet)
    (hsnippet : file.snippet t.span = .ok snippet) (showSpans : Bool) :
    ∀ field ∈ tokenFields showSpans file symbols t, IsField field := by
  rw [← TokenEntry.fields_of]
  exact TokenEntry.isField_of_mem_fields (isField_kind _) h.isField_text
    (h.isField_sourceSpelling? hsnippet)

end Tokens

/-! ## Listings -/

/-- The entries of all tokens but the end of the text. -/
def entriesOf (showSpans : Bool) (file : SourceFile) (symbols : SymbolTable)
    (tokens : List SpannedToken) : List TokenEntry :=
  (tokens.filter (·.token ≠ .eof)).map (TokenEntry.of showSpans file symbols)

theorem isSome_start_of_mem_entriesOf {showSpans : Bool} {file : SourceFile}
    {symbols : SymbolTable} {tokens : List SpannedToken} {e : TokenEntry}
    (h : e ∈ entriesOf showSpans file symbols tokens) : e.start.isSome = showSpans := by
  obtain ⟨t, -, rfl⟩ := List.mem_map.1 h
  cases showSpans <;> rfl

theorem tokenListing_eq_map_fields (showSpans : Bool) (file : SourceFile) (symbols : SymbolTable)
    (tokens : List SpannedToken) :
    tokenListing showSpans file symbols tokens =
      ((entriesOf showSpans file symbols tokens).map TokenEntry.fields).map
        ("\t".intercalate ·) := by
  rw [tokenListing, entriesOf, List.map_map, List.map_map]
  refine List.map_congr_left fun t _ => ?_
  show "\t".intercalate (tokenFields showSpans file symbols t) =
    "\t".intercalate (TokenEntry.of showSpans file symbols t).fields
  rw [TokenEntry.fields_of]

/-- `text` has a line for every token but the end of the text, in order, with the token's fields
between tabs. -/
structure IsListing (showSpans : Bool) (file : SourceFile) (symbols : SymbolTable)
    (tokens : List SpannedToken) (text : String) : Prop where
  text_eq : text = String.join ((tokens.filter (·.token ≠ .eof)).map fun t =>
    "\t".intercalate (tokenFields showSpans file symbols t) ++ "\n")
  /-- The spelling of an identifier is shown where normalization rewrote it. -/
  fields_eq : ∀ t ∈ tokens, t.token ≠ .eof → ∃ snippet, file.snippet t.span = .ok snippet ∧
    tokenFields showSpans file symbols t =
      (if showSpans then [s!"{t.span.lo.line}:{t.span.lo.column}"] else []) ++
        [t.token.kind, t.token.text symbols] ++
        if t.token.isIdent ∧ String.ofList snippet ≠ t.token.text symbols then
          [s!"(from {String.ofList snippet})"]
        else []
  isField : ∀ t ∈ tokens, t.token ≠ .eof →
    ∀ field ∈ tokenFields showSpans file symbols t, IsField field
  /-- The fields can be read off the text. -/
  rows : rowsOf text =
    (tokens.filter (·.token ≠ .eof)).map (tokenFields showSpans file symbols)

section Listing

variable {file : SourceFile} {options : LexOptions} {policy : RecoveryPolicy}
  {symbols : SymbolTable} {log : DiagnosticLog} {tokens : Array SpannedToken} {lx : Lexer}
  (h : tokenize file options policy symbols log = (.ok tokens, lx)) (showSpans : Bool)

include h

theorem rowsOf_listing :
    rowsOf (Outcome.printed (tokenListing showSpans file lx.symbols tokens.toList)) =
      (entriesOf showSpans file lx.symbols tokens.toList).map TokenEntry.fields := by
  rw [tokenListing_eq_map_fields]
  apply rowsOf_printed
  · exact List.forall_mem_map.2 fun e _ => e.fields_ne_nil
  · refine List.forall_mem_map.2 (List.forall_mem_map.2 fun t ht => ?_)
    rw [List.mem_filter, decide_eq_true_eq] at ht
    obtain ⟨snippet, hsnippet, hspelled⟩ := exists_spelledBy h ht.1 ht.2
    rw [TokenEntry.fields_of]
    exact hspelled.isField_of_mem_tokenFields hsnippet showSpans

theorem isListing_listing :
    IsListing showSpans file lx.symbols tokens.toList
      (Outcome.printed (tokenListing showSpans file lx.symbols tokens.toList)) where
  text_eq := by
    rw [Outcome.printed, tokenListing, List.map_map]
    rfl
  fields_eq t ht hne := by
    obtain ⟨snippet, hsnippet, -⟩ := exists_spelledBy h ht hne
    refine ⟨snippet, hsnippet, ?_⟩
    rw [tokenFields, sourceSpelling?_eq hsnippet]
    split_ifs <;> rfl
  isField t ht hne := by
    obtain ⟨snippet, hsnippet, hspelled⟩ := exists_spelledBy h ht hne
    exact hspelled.isField_of_mem_tokenFields hsnippet showSpans
  rows := by
    rw [rowsOf_listing h, entriesOf, List.map_map]
    exact List.map_congr_left fun t _ => TokenEntry.fields_of showSpans file lx.symbols t

end Listing

/-- The text of a listing has the fields of the tokens, line by line.  Two listings, both with
positions or both without, have the same text exactly if they list the same entries. -/
theorem listing_unambiguous {file : SourceFile} {options : LexOptions} {policy : RecoveryPolicy}
    {symbols : SymbolTable} {log : DiagnosticLog} {tokens : Array SpannedToken} {lx : Lexer}
    (h : tokenize file options policy symbols log = (.ok tokens, lx)) (showSpans : Bool) :
    IsListing showSpans file lx.symbols tokens.toList
        (Outcome.printed (tokenListing showSpans file lx.symbols tokens.toList)) ∧
      ∀ {file' : SourceFile} {options' : LexOptions} {policy' : RecoveryPolicy}
        {symbols' : SymbolTable} {log' : DiagnosticLog} {tokens' : Array SpannedToken}
        {lx' : Lexer},
        tokenize file' options' policy' symbols' log' = (.ok tokens', lx') →
        (Outcome.printed (tokenListing showSpans file lx.symbols tokens.toList) =
            Outcome.printed (tokenListing showSpans file' lx'.symbols tokens'.toList) ↔
          entriesOf showSpans file lx.symbols tokens.toList =
            entriesOf showSpans file' lx'.symbols tokens'.toList) := by
  refine ⟨isListing_listing h showSpans, fun h' => ⟨fun htext => ?_, fun hentries => ?_⟩⟩
  · have hrows := congrArg rowsOf htext
    rw [rowsOf_listing h, rowsOf_listing h'] at hrows
    refine TokenEntry.map_fields_inj (fun e he e' he' => ?_) hrows
    rw [isSome_start_of_mem_entriesOf he, isSome_start_of_mem_entriesOf he']
  · rw [tokenListing_eq_map_fields, tokenListing_eq_map_fields, hentries]

/-- Two files that differ in blanks, in a comment and in how a number is spelled. -/
theorem listing_unambiguous_respelled :
    ∃ (file file' : SourceFile) (tokens tokens' : Array SpannedToken) (lx lx' : Lexer),
      file.text = "7\t'# x\n".toList ∧ file'.text = "007 '\n".toList ∧
      tokenize file {} .abort {} {} = (.ok tokens, lx) ∧
      tokenize file' {} .abort {} {} = (.ok tokens', lx') ∧
      IsListing false file lx.symbols tokens.toList
        "number\t7\ninvalid\t\\'\nnewline\t\\n\n" ∧
      entriesOf false file lx.symbols tokens.toList =
        entriesOf false file' lx'.symbols tokens'.toList := by
  obtain ⟨lx, hrun⟩ : ∃ lx, tokenize { id := 0, name := "a", text := "7\t'# x\n".toList } {}
      .abort {} {} = (.ok #[⟨.number 7, ⟨⟨0, 1, 1⟩, ⟨1, 1, 2⟩, 0⟩⟩,
        ⟨.invalid '\'', ⟨⟨2, 1, 3⟩, ⟨3, 1, 4⟩, 0⟩⟩, ⟨.newline, ⟨⟨6, 1, 7⟩, ⟨7, 2, 1⟩, 0⟩⟩,
        ⟨.eof, ⟨⟨7, 2, 1⟩, ⟨7, 2, 1⟩, 0⟩⟩], lx) :=
    ⟨_, Prod.ext (by cbv) rfl⟩
  obtain ⟨lx', hrun'⟩ : ∃ lx, tokenize { id := 0, name := "a", text := "007 '\n".toList } {}
      .abort {} {} = (.ok #[⟨.number 7, ⟨⟨0, 1, 1⟩, ⟨3, 1, 4⟩, 0⟩⟩,
        ⟨.invalid '\'', ⟨⟨4, 1, 5⟩, ⟨5, 1, 6⟩, 0⟩⟩, ⟨.newline, ⟨⟨5, 1, 6⟩, ⟨6, 2, 1⟩, 0⟩⟩,
        ⟨.eof, ⟨⟨6, 2, 1⟩, ⟨6, 2, 1⟩, 0⟩⟩], lx) :=
    ⟨_, Prod.ext (by cbv) rfl⟩
  obtain ⟨hlisting, hiff⟩ := listing_unambiguous hrun false
  exact ⟨_, _, _, _, lx, lx', rfl, rfl, hrun, hrun', hlisting, (hiff hrun').1 rfl⟩

end Lexicon
