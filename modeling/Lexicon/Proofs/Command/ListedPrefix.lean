import Lexicon.Proofs.Command.ListedFile
import Lexicon.Proofs.Command.Verdict

/-!
# Listings as prefixes

A listing shows its files one after another, each as if it were the only one, up to the first that
stops it: a file that cannot be read, or one whose lexing fails (`ListsPrefix`).  Behind that file
nothing is shown but why the listing fails (`listing_is_prefix`).
-/

namespace Lexicon

open Source CommandLine

/-! ## Files alone -/

namespace Lexing

/-- The file at a path, lexed as the only one. -/
def alone (lexing : Lexing) (storage : Storage) (path : String) :
    Except CommandError LexedFile :=
  (readSource storage path).map fun text => lexing.lex (SourceMap.addFile {} path text).1 {}

/-- Why a listing stops at the file at a path, if it does. -/
def stop? (lexing : Lexing) (storage : Storage) (path : String) : Option CommandError :=
  match lexing.alone storage path with
  | .error e => some e
  | .ok lexed =>
    match lexed.result with
    | .error e => some (.lexing e)
    | .ok _ => none

/-- The number of errors reported about the file at a path, 0 if it cannot be read. -/
def reported (lexing : Lexing) (storage : Storage) (path : String) : Nat :=
  match lexing.alone storage path with
  | .error _ => 0
  | .ok lexed => lexed.count .error

variable {lexing : Lexing} {storage : Storage} {path : String}

theorem alone_eq_ok {text : List Char} (h : readSource storage path = .ok text) :
    lexing.alone storage path =
      .ok (lexing.lex (SourceMap.addFile {} path text).1 {}) := by
  rw [alone, h]
  rfl

theorem alone_eq_error {e : CommandError} (h : readSource storage path = .error e) :
    lexing.alone storage path = .error e := by
  rw [alone, h]
  rfl

end Lexing

namespace ListingOptions

/-- What a listing prints of the file that stops it: nothing, or in JSON, if it can be read, its
record without tokens. -/
def lastRecord? (options : ListingOptions) (storage : Storage) (path : String) :
    Option FileRecord :=
  match options.format, options.lexing.alone storage path with
  | .json, .ok lexed =>
    match lexed.result with
    | .error e =>
      some
        { file := path
          tokens := []
          diagnostics := lexed.diagnostics.map DiagnosticRecord.of
          error := some e.message }
    | .ok _ => none
  | _, _ => none

variable (options : ListingOptions) {storage : Storage} {path : String}

theorem out_list_singleton_of_ok {text : List Char} (h : readSource storage path = .ok text) :
    (options.list storage [path]).out =
        options.lines (options.lexing.lex (SourceMap.addFile {} path text).1 {}) ∧
      (options.list storage [path]).err =
        (options.lexing.lex (SourceMap.addFile {} path text).1 {}).diagnostics.map
          (·.render (SourceMap.addFile {} path text).2) := by
  rw [list, listFrom, loadSource_eq_ok h]
  simp only [Outcome.after]
  cases (options.lexing.lex (SourceMap.addFile {} path text).1 {}).result with
  | error e => exact ⟨List.append_nil _, List.append_nil _⟩
  | ok tokens =>
    simp only [listFrom]
    split_ifs <;> exact ⟨List.append_nil _, List.append_nil _⟩

theorem list_singleton_of_error {e : CommandError} (h : readSource storage path = .error e) :
    options.list storage [path] = .failed e := by
  rw [list, listFrom, loadSource_eq_error h]

/-! ## One file after another -/

/-- A file is listed as it is alone, and then the listing stops, whatever files follow, or goes on
with them. -/
theorem listFrom_cons (map : SourceMap) (symbols : SymbolTable) (errors : Nat) (path : String) :
    (∃ e, options.lexing.stop? storage path = some e ∧
      ∃ e', e'.message = e.message ∧ ∀ paths,
        options.listFrom storage map symbols errors (path :: paths) =
          .after (options.list storage [path]).out (options.list storage [path]).err
            (.failed e')) ∨
    options.lexing.stop? storage path = none ∧
      ∃ map' symbols', ∀ paths,
        options.listFrom storage map symbols errors (path :: paths) =
          .after (options.list storage [path]).out (options.list storage [path]).err
            (options.listFrom storage map' symbols'
              (errors + options.lexing.reported storage path) paths) := by
  cases hread : readSource storage path with
  | error e =>
    refine .inl ⟨e, ?_, e, rfl, fun paths => ?_⟩
    · rw [Lexing.stop?, Lexing.alone_eq_error hread]
    · rw [listFrom, loadSource_eq_error hread, options.list_singleton_of_error hread]
      rfl
  | ok text =>
    have halike := listedAlike_addFile options.lexing map path text symbols
    obtain ⟨hout, herr⟩ := options.out_list_singleton_of_ok hread
    rw [hout, herr, Lexing.stop?, Lexing.reported, Lexing.alone_eq_ok hread]
    simp only [listFrom, loadSource_eq_ok hread, halike.lines_eq, map_render_addFile,
      halike.count_eq]
    rcases halike.result with ⟨tokens, tokens', hok, hok'⟩ | ⟨e, e', herror, herror', hmessage⟩
    · rw [hok, hok']
      exact .inr ⟨rfl, _, _, fun _ => rfl⟩
    · rw [herror, herror']
      exact .inl ⟨_, rfl, .lexing e', hmessage, fun _ => rfl⟩

/-! ## Whole listings -/

end ListingOptions

/-- The files in front of the first that stops a listing. -/
def Lexing.before (lexing : Lexing) (storage : Storage) (paths : List String) : List String :=
  paths.takeWhile fun path => (lexing.stop? storage path).isNone

/-- The first file that stops a listing. -/
def Lexing.last? (lexing : Lexing) (storage : Storage) (paths : List String) : Option String :=
  paths.find? fun path => (lexing.stop? storage path).isSome

/-- The files that a listing shows. -/
def Lexing.listed (lexing : Lexing) (storage : Storage) (paths : List String) : List String :=
  lexing.before storage paths ++ (lexing.last? storage paths).toList

/-- The error that a listing ends with where files reported the given number of errors, and none
stops it. -/
def reportedError? (errors : Nat) : Option CommandError :=
  if errors = 0 then none else some (.errorsReported errors)

namespace Lexing

variable {lexing : Lexing} {storage : Storage} {path : String} (paths : List String)

theorem listed_cons_of_some {e : CommandError} (h : lexing.stop? storage path = some e) :
    lexing.listed storage (path :: paths) = [path] := by
  rw [listed, before, last?, List.takeWhile_cons_of_neg (by simp [h]),
    List.find?_cons_of_pos (by simp [h])]
  rfl

theorem listed_cons_of_none (h : lexing.stop? storage path = none) :
    lexing.listed storage (path :: paths) = path :: lexing.listed storage paths := by
  rw [listed, before, last?, List.takeWhile_cons_of_pos (by simp [h]),
    List.find?_cons_of_neg (by simp [h])]
  rfl

end Lexing

namespace ListingOptions

variable (options : ListingOptions) {storage : Storage}

/-- A listing prints what it prints of each file alone, and fails as the first file does that stops
it, or else by the number of errors. -/
theorem listFrom_eq (map : SourceMap) (symbols : SymbolTable) (errors : Nat)
    (paths : List String) :
    (options.listFrom storage map symbols errors paths).out =
        (options.lexing.listed storage paths).flatMap (fun path =>
          (options.list storage [path]).out) ∧
      (options.listFrom storage map symbols errors paths).err =
        (options.lexing.listed storage paths).flatMap (fun path =>
          (options.list storage [path]).err) ∧
      (options.listFrom storage map symbols errors paths).failure.map CommandError.message =
        ((paths.findSome? (options.lexing.stop? storage)).or
          (reportedError? (errors + (paths.map (options.lexing.reported storage)).sum))).map
            CommandError.message := by
  induction paths generalizing map symbols errors with
  | nil =>
    rw [listFrom, List.map_nil, List.sum_nil, Nat.add_zero, List.findSome?_nil, Option.none_or,
      reportedError?]
    split_ifs <;> exact ⟨rfl, rfl, rfl⟩
  | cons path paths ih =>
    rcases options.listFrom_cons map symbols errors path with
      ⟨e, hstop, e', hmessage, hlist⟩ | ⟨hstop, map', symbols', hlist⟩
    · rw [hlist, Lexing.listed_cons_of_some paths hstop,
        List.findSome?_cons_of_isSome (by simp [hstop]), hstop]
      refine ⟨?_, ?_, congrArg some hmessage⟩
      · rw [List.flatMap_singleton]
        exact List.append_nil _
      · rw [List.flatMap_singleton]
        exact List.append_nil _
    · obtain ⟨hout, herr, hfailure⟩ :=
        ih map' symbols' (errors + options.lexing.reported storage path)
      rw [hlist, Lexing.listed_cons_of_none paths hstop,
        List.findSome?_cons_of_isNone (by simp [hstop])]
      refine ⟨?_, ?_, ?_⟩
      · rw [List.flatMap_cons, ← hout]
        rfl
      · rw [List.flatMap_cons, ← herr]
        rfl
      · rw [List.map_cons, List.sum_cons, ← Nat.add_assoc, ← hfailure]
        rfl

end ListingOptions

/-! ## What the caller sees -/

namespace Outcome

theorem printed_append (a b : List String) : printed (a ++ b) = printed a ++ printed b := by
  rw [printed, List.map_append, String.join_append, printed, printed]

theorem printed_flatMap {α : Type} (l : List α) (lines : α → List String) :
    printed (l.flatMap lines) = String.join (l.map fun a => printed (lines a)) := by
  induction l with
  | nil => rfl
  | cons a l ih => rw [List.flatMap_cons, printed_append, ih, List.map_cons, String.join_cons]

theorem printed_singleton (line : String) : printed [line] = line ++ "\n" := by
  rw [printed, List.map_singleton, String.join_cons, String.join_nil, String.append_empty]

/-- The error is told in the last line. -/
theorem stderr_eq {o : Outcome} {message : String}
    (h : ∀ e, o.failure = some e → e.message = message) :
    o.stderr = printed o.err ++ if o.status = 1 then "error: " ++ message ++ "\n" else "" := by
  rw [stderr, printed_append, status]
  cases hfailure : o.failure with
  | none => rfl
  | some e =>
    rw [← h e hfailure]
    simp only [Option.map_some, Option.toList_some, Option.isSome_some, if_true, printed_singleton]
    rfl

end Outcome

namespace Lexing

variable {lexing : Lexing} {storage : Storage} {path : String}

theorem findSome?_stop? (paths : List String) :
    paths.findSome? (lexing.stop? storage) =
      (lexing.last? storage paths).bind (lexing.stop? storage) := by
  induction paths with
  | nil => rfl
  | cons path paths ih =>
    cases h : lexing.stop? storage path with
    | none =>
      rw [List.findSome?_cons_of_isNone (by simp [h]), ih, last?, last?,
        List.find?_cons_of_neg (by simp [h])]
    | some e =>
      rw [List.findSome?_cons_of_isSome (by simp [h]), last?, List.find?_cons_of_pos (by simp [h])]
      rfl

theorem exists_stop?_of_last? {paths : List String}
    (h : lexing.last? storage paths = some path) : ∃ e, lexing.stop? storage path = some e := by
  have hstop : (lexing.stop? storage path).isSome := by simpa using List.find?_some h
  exact Option.isSome_iff_exists.1 hstop

theorem before_eq_of_last? {paths : List String} (h : lexing.last? storage paths = none) :
    lexing.before storage paths = paths := by
  refine List.takeWhile_eq_self_iff.2 fun path hpath => ?_
  have hnone := List.find?_eq_none.1 h path hpath
  simpa using hnone

/-- Errors are reported about a file exactly if one of its diagnostics is an error. -/
theorem reported_ne_zero_iff :
    lexing.reported storage path ≠ 0 ↔
      ∃ lexed, lexing.alone storage path = .ok lexed ∧
        ∃ d ∈ lexed.diagnostics, d.level = .error := by
  rw [reported]
  cases lexing.alone storage path with
  | error e => simp
  | ok lexed => simp [LexedFile.count, List.countP_eq_zero]

/-- The error that ends a lexing names the file. -/
theorem file_of_result_eq_error {file : SourceFile} {symbols : SymbolTable} {e : LexError}
    (h : (lexing.lex file symbols).result = .error e) : e.file = file.name := by
  obtain ⟨segments, hsegments⟩ := exists_segmentsOf file
  have hresult : (lexing.lex file symbols).result =
      (tokenize file lexing.options lexing.policy symbols {}).1 := rfl
  rw [hresult] at h
  rcases hsegments.tokenize_cases lexing.policy with hok | ⟨before, c, span, herror⟩
  · obtain ⟨lx, hrun, -⟩ := hok lexing.options symbols {}
    rw [hrun] at h
    cases h
  · obtain ⟨lx, hrun, -⟩ := herror lexing.options symbols {}
    rw [hrun] at h
    cases h
    rfl

/-- A listing stops with an error about the file. -/
theorem stop?_cases {e : CommandError} (h : lexing.stop? storage path = some e) :
    (∃ cause, e = .sourceUnreadable path cause) ∨ e = .sourceNotText path ∨
      ∃ cause : LexError, e = .lexing cause ∧ cause.file = path := by
  rw [stop?] at h
  cases hread : readSource storage path with
  | error e' =>
    rw [alone_eq_error hread, Option.some.injEq] at h
    subst h
    rw [readSource] at hread
    split at hread
    · cases hread
      exact .inl ⟨_, rfl⟩
    · split at hread
      · cases hread
      · cases hread
        exact .inr (.inl rfl)
  | ok text =>
    rw [alone_eq_ok hread] at h
    simp only at h
    split at h
    · next e' herror =>
      cases h
      exact .inr (.inr ⟨e', rfl, file_of_result_eq_error herror⟩)
    · cases h

end Lexing

/-! ## Messages in one line -/

/-- A text without a line feed. -/
def IsOneLine (s : String) : Prop := '\n' ∉ s.toList

instance (s : String) : Decidable (IsOneLine s) := inferInstanceAs (Decidable ('\n' ∉ s.toList))

theorem IsOneLine.append {s t : String} (hs : IsOneLine s) (ht : IsOneLine t) :
    IsOneLine (s ++ t) := by
  rw [IsOneLine, String.toList_append, List.mem_append, not_or]
  exact ⟨hs, ht⟩

theorem isOneLine_toString (n : Nat) : IsOneLine (toString n) :=
  Text.notMem_toString (by decide) n

theorem isOneLine_errorsReported (errors : Nat) :
    IsOneLine (CommandError.errorsReported errors).message := by
  have hfront : IsOneLine "Command execution failed: " := by decide
  have hback : IsOneLine " error(s) while lexing" := by decide
  exact (hfront.append (isOneLine_toString errors)).append hback

/-- The error that a listing stops with is told in one line, if the path takes one. -/
theorem isOneLine_of_stop? {lexing : Lexing} {storage : Storage} {path : String}
    {e : CommandError} (h : lexing.stop? storage path = some e) (hpath : IsOneLine path) :
    IsOneLine e.message := by
  have hfront : IsOneLine "File operation failed: " := by decide
  have hcolon : IsOneLine ": " := by decide
  rcases Lexing.stop?_cases h with ⟨cause, rfl⟩ | rfl | ⟨cause, rfl, rfl⟩
  · have hcause : IsOneLine cause.message := by cases cause <;> decide
    exact ((hfront.append hpath).append hcolon).append hcause
  · have hback : IsOneLine ": source is not valid UTF-8" := by decide
    exact (hfront.append hpath).append hback
  · have hsummary : IsOneLine (LexError.summary ++ " (") := by decide
    have hline : IsOneLine ", line " := by decide
    have hclose : IsOneLine ")" := by decide
    exact (((hsummary.append hpath).append hline).append (isOneLine_toString _)).append hclose

/-! ## Listings as prefixes -/

namespace ListingOptions

/-- The diagnostics of the file at a path, as shown with it as the only file; none if it cannot be
read. -/
def rendered (options : ListingOptions) (storage : Storage) (path : String) : List String :=
  match readSource storage path with
  | .error _ => []
  | .ok text =>
    (options.lexing.lex (SourceMap.addFile {} path text).1 {}).diagnostics.map
      (·.render (SourceMap.addFile {} path text).2)

/-- The error of a listing: that of the file which stops it, or else the number of errors. -/
def endError (options : ListingOptions) (storage : Storage) (paths : List String) : CommandError :=
  ((options.lexing.last? storage paths).bind (options.lexing.stop? storage)).getD
    (.errorsReported (paths.map (options.lexing.reported storage)).sum)

/-- What `list` prints about files is, in their order, what it prints about each alone, up to the
first file that stops it. -/
structure ListsPrefix (options : ListingOptions) (storage : Storage)
    (list : List String → Outcome) (paths : List String) : Prop where
  /-- Of the file that stops the listing there is at most a record without tokens. -/
  stdout : (list paths).stdout =
    String.join ((options.lexing.before storage paths).map fun path => (list [path]).stdout) ++
      Outcome.printed (((options.lexing.last? storage paths).bind
        (options.lastRecord? storage)).map (·.toJson.render)).toList
  /-- The last line tells why the listing failed, if it did. -/
  stderr : ∃ message : String,
    (list paths).stderr =
      String.join ((options.lexing.listed storage paths).map fun path =>
        Outcome.printed (list [path]).err) ++
      (if (list paths).status = 1 then "error: " ++ message ++ "\n" else "") ∧
    message = (options.endError storage paths).message ∧
    ((∀ path ∈ paths, IsOneLine path) → IsOneLine message)
  err : ∀ path, (list [path]).err = options.rendered storage path
  status : (list paths).status = 0 ∨ (list paths).status = 1
  status_eq_one_iff : (list paths).status = 1 ↔
    (options.lexing.last? storage paths).isSome ∨
      ∃ path ∈ options.lexing.before storage paths, ∃ lexed,
        options.lexing.alone storage path = .ok lexed ∧ ∃ d ∈ lexed.diagnostics, d.level = .error
  /-- Files behind one that stops the listing make no difference. -/
  append_eq : (options.lexing.last? storage paths).isSome → ∀ more,
    list (paths ++ more) = list paths

section Prefix

variable (options : ListingOptions) {storage : Storage}

theorem err_list_singleton (path : String) :
    (options.list storage [path]).err = options.rendered storage path := by
  rw [rendered]
  cases hread : readSource storage path with
  | error e =>
    rw [options.list_singleton_of_error hread]
    rfl
  | ok text => exact (options.out_list_singleton_of_ok hread).2

theorem out_list_singleton_of_stop? {path : String} {e : CommandError}
    (h : options.lexing.stop? storage path = some e) :
    (options.list storage [path]).out =
      ((options.lastRecord? storage path).map (·.toJson.render)).toList := by
  rw [Lexing.stop?] at h
  rw [lastRecord?]
  cases hread : readSource storage path with
  | error e' =>
    rw [options.list_singleton_of_error hread, Lexing.alone_eq_error hread]
    cases options.format <;> rfl
  | ok text =>
    rw [Lexing.alone_eq_ok hread] at h ⊢
    rw [(options.out_list_singleton_of_ok hread).1, lines]
    simp only at h
    split at h
    · next herror =>
      cases options.format with
      | text => simp only [herror, Option.map_none, Option.toList_none]
      | json =>
        simp only [herror]
        rfl
    · cases h

theorem failure_list_eq_none_iff (paths : List String) :
    (options.list storage paths).failure = none ↔
      options.lexing.last? storage paths = none ∧
        ∀ path ∈ options.lexing.before storage paths, options.lexing.reported storage path = 0 := by
  have hfailure := (@listFrom_eq options storage {} {} 0 paths).2.2
  rw [Lexing.findSome?_stop?, Nat.zero_add] at hfailure
  rw [← Option.map_eq_none_iff (f := CommandError.message), list, hfailure, Option.map_eq_none_iff,
    Option.or_eq_none_iff]
  cases hlast : options.lexing.last? storage paths with
  | some path =>
    obtain ⟨e, hstop⟩ := Lexing.exists_stop?_of_last? hlast
    simp [hstop]
  | none =>
    rw [Lexing.before_eq_of_last? hlast]
    simp [reportedError?, List.sum_eq_zero_iff_forall_eq_nat]

theorem message_of_failure_list {paths : List String} {e : CommandError}
    (h : (options.list storage paths).failure = some e) :
    e.message = (options.endError storage paths).message := by
  have hfailure := (@listFrom_eq options storage {} {} 0 paths).2.2
  rw [Lexing.findSome?_stop?, Nat.zero_add] at hfailure
  rw [list] at h
  rw [h, Option.map_some] at hfailure
  rw [endError]
  cases hstop : (options.lexing.last? storage paths).bind (options.lexing.stop? storage) with
  | some e' =>
    rw [hstop] at hfailure
    exact Option.some.inj hfailure
  | none =>
    rw [hstop, Option.none_or, reportedError?] at hfailure
    split_ifs at hfailure
    · cases hfailure
    · exact Option.some.inj hfailure

theorem isOneLine_endError {paths : List String} (h : ∀ path ∈ paths, IsOneLine path) :
    IsOneLine (options.endError storage paths).message := by
  rw [endError]
  cases hlast : options.lexing.last? storage paths with
  | none => exact isOneLine_errorsReported _
  | some path =>
    obtain ⟨e, hstop⟩ := Lexing.exists_stop?_of_last? hlast
    rw [Option.bind_some, hstop]
    exact isOneLine_of_stop? hstop (h path (List.mem_of_find?_eq_some hlast))

theorem stdout_list (paths : List String) :
    (options.list storage paths).stdout =
      String.join ((options.lexing.before storage paths).map fun path =>
        (options.list storage [path]).stdout) ++
      Outcome.printed (((options.lexing.last? storage paths).bind
        (options.lastRecord? storage)).map (·.toJson.render)).toList := by
  have hlast : String.join ((options.lexing.last? storage paths).toList.map fun path =>
      (options.list storage [path]).stdout) =
        Outcome.printed (((options.lexing.last? storage paths).bind
          (options.lastRecord? storage)).map (·.toJson.render)).toList := by
    cases hpath : options.lexing.last? storage paths with
    | none => rfl
    | some path =>
      obtain ⟨e, hstop⟩ := Lexing.exists_stop?_of_last? hpath
      rw [Option.bind_some, ← options.out_list_singleton_of_stop? hstop, Option.toList_some,
        List.map_singleton, String.join_cons, String.join_nil, String.append_empty]
      rfl
  have hout : (options.list storage paths).stdout = Outcome.printed _ :=
    congrArg Outcome.printed (options.listFrom_eq {} {} 0 paths).1
  rw [hout, Outcome.printed_flatMap, Lexing.listed, List.map_append, String.join_append, ← hlast]
  rfl

theorem stderr_list (paths : List String) :
    (options.list storage paths).stderr =
      String.join ((options.lexing.listed storage paths).map fun path =>
        Outcome.printed (options.list storage [path]).err) ++
      if (options.list storage paths).status = 1 then
        "error: " ++ (options.endError storage paths).message ++ "\n"
      else "" := by
  have herr : Outcome.printed (options.list storage paths).err = Outcome.printed _ :=
    congrArg Outcome.printed (options.listFrom_eq {} {} 0 paths).2.1
  rw [Outcome.stderr_eq fun e => options.message_of_failure_list, herr, Outcome.printed_flatMap]

theorem listFrom_append (map : SourceMap) (symbols : SymbolTable) (errors : Nat)
    {paths : List String} (h : (options.lexing.last? storage paths).isSome) (more : List String) :
    options.listFrom storage map symbols errors (paths ++ more) =
      options.listFrom storage map symbols errors paths := by
  induction paths generalizing map symbols errors with
  | nil => cases h
  | cons path paths ih =>
    rw [List.cons_append]
    rcases options.listFrom_cons map symbols errors path with
      ⟨e, -, e', -, hlist⟩ | ⟨hstop, map', symbols', hlist⟩
    · rw [hlist, hlist]
    · rw [Lexing.last?, List.find?_cons_of_neg (by simp [hstop])] at h
      rw [hlist, hlist, ih _ _ _ h]

theorem listsPrefix_list (paths : List String) :
    options.ListsPrefix storage (options.list storage) paths := by
  refine ⟨options.stdout_list paths, ⟨_, options.stderr_list paths, rfl,
    options.isOneLine_endError⟩, options.err_list_singleton, ?_, ?_,
    fun hlast => options.listFrom_append {} {} 0 hlast⟩
  · unfold Outcome.status
    split_ifs <;> simp
  · rw [Outcome.status_eq_one_iff, Ne, options.failure_list_eq_none_iff, not_and_or,
      ← Ne, Option.ne_none_iff_isSome]
    refine or_congr_right ?_
    simp only [not_forall, exists_prop, ← ne_eq, Lexing.reported_ne_zero_iff]

end Prefix

end ListingOptions

/-- Where the configuration is valid, listing files prints what listing each of them alone prints,
up to the first file that cannot be read or whose lexing fails. -/
theorem listing_is_prefix {storage : Storage} {env : Environment} (i : Invocation)
    {settings : Settings} (hsettings : loadSettings storage env i.config = .ok settings)
    (format : ListingFormat) (recovery : Option RecoveryPolicy) (spans : Bool)
    (paths : List String) :
    ListingOptions.ListsPrefix
      ⟨settings.lex.lexing recovery, format, spans || settings.lex.showSpans⟩ storage
      (fun paths => { i with command := .lex format recovery spans paths }.execute storage env)
      paths := by
  have hlist : (fun paths =>
      { i with command := .lex format recovery spans paths }.execute storage env) =
        ListingOptions.list
          ⟨settings.lex.lexing recovery, format, spans || settings.lex.showSpans⟩ storage :=
    funext fun paths => execute_lex hsettings format recovery spans paths
  rw [hlist]
  exact ListingOptions.listsPrefix_list _ paths

/-- A storage with a file that has an error, `a`, and one that cannot be lexed, `b`. -/
def storageOfRejected : Storage where
  read path :=
    if path = "a" then .ok "x $\n".toUTF8
    else if path = "b" then .ok "µ €\n".toUTF8
    else .error .notFound

/-- In JSON the second file of four ends the listing with a record of its own, and the third, which
is not there, is not missed. -/
theorem listing_is_prefix_rejected :
    loadSettings storageOfRejected {} none = .ok {} ∧
      Lexing.before ⟨{}, .abort⟩ storageOfRejected ["a", "b", "c", "a"] = ["a"] ∧
      Lexing.last? ⟨{}, .abort⟩ storageOfRejected ["a", "b", "c", "a"] = some "b" ∧
      ListingOptions.ListsPrefix ⟨⟨{}, .abort⟩, .json, false⟩ storageOfRejected
        (fun paths => Invocation.execute storageOfRejected {}
          ⟨false, false, none, .lex .json none false paths⟩) ["a", "b", "c", "a"] ∧
      (Invocation.execute storageOfRejected {}
        ⟨false, false, none, .lex .json none false ["a", "b", "c", "a"]⟩).failure.map
          CommandError.message = some "invalid character in identifier (b, line 1)" := by
  have hsettings : loadSettings storageOfRejected {} none = .ok {} := by
    decide +kernel
  refine ⟨hsettings, by decide +kernel, by decide +kernel, ?_, by decide +kernel⟩
  exact listing_is_prefix ⟨false, false, none, .normalize false []⟩ hsettings .json none false
    ["a", "b", "c", "a"]

end Lexicon
